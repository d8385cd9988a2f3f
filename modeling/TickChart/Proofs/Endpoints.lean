import TickChart.Backend.Endpoint
import TickChart.Proofs.Segments
import TickChart.Proofs.Symbols

/-!
# Endpoints of symbols

The address of a resource is that of the backend with segments behind its path. An exchange or a
symbol becomes one segment, and is decoded from it, exactly if nothing of it is dropped. Two symbols
have one address exactly if they differ in nothing but what is dropped.

* `trunk`: the segments of the backend's path that are kept.
* `Follow`: texts follow behind them. `follow_iff`: which texts do.
* `Address.text_eq_iff`, `Path.chars_eq_iff`: addresses that differ in one segment.
* `endpoints_of_symbols`: the addresses of candles and of indicators.
-/

namespace TickChart

open Url

namespace Url

variable {special : Bool} {ss : List (List Char)} {first text : String} {texts : List String}

/-- The segments behind which others are put: all but an empty one at the end. The root has none. -/
def trunk (ss : List (List Char)) : List (List Char) :=
  if withoutEmptyLast ss = [[]] then [] else withoutEmptyLast ss

/-- The path goes on behind its trunk with the texts: each of them is decoded from one segment, and
no segment has a character that would end it or the path. -/
def Follow (special : Bool) (ss : List (List Char)) (texts : List String) (path : Path) : Prop :=
  ∃ more, path = .segments (trunk ss ++ more) ∧
    more.map percentDecode? = texts.map (fun text => some text.toList) ∧
    ∀ segment ∈ more, ∀ c ∈ segment, isSeparator special c = false ∧ endsPath c = false

/-- The path of an address after texts were put behind its segments. -/
def extended (special : Bool) (ss : List (List Char)) (texts : List String) : List (List Char) :=
  (texts.map String.toList).foldl (appendSegment special) (withoutEmptyLast ss)

theorem extended_cons (h : Undotted first.toList) :
    extended special ss (first :: texts) =
      (texts.map String.toList).foldl (appendSegment special)
        (trunk ss ++ [encoded special first.toList]) := by
  rw [extended, List.map_cons, List.foldl_cons, appendSegment_of_undotted h]
  rfl

/-- Behind a word, texts that are no dot segments stand one after the other. -/
theorem extended_of_undotted (hfirst : Undotted first.toList)
    (hword : encoded special first.toList ≠ []) (h : ∀ text ∈ texts, Undotted text.toList) :
    extended special ss (first :: texts) =
      trunk ss ++ (first :: texts).map (encoded special ·.toList) := by
  have hne : trunk ss ++ [encoded special first.toList] ≠ [] := by simp
  have hroot : trunk ss ++ [encoded special first.toList] ≠ [[]] := by
    intro heq
    have hlast := congrArg List.getLast? heq
    rw [List.getLast?_concat] at hlast
    exact hword (Option.some.inj hlast)
  have hall : ∀ text ∈ texts.map String.toList, Undotted text := by
    intro text htext
    obtain ⟨t, ht, rfl⟩ := List.mem_map.mp htext
    exact h t ht
  rw [extended_cons hfirst, foldl_appendSegment hall hne hroot, List.map_cons, List.map_map,
    List.append_assoc]
  rfl

/-- Texts follow behind a path, of which the first one is a word, exactly if nothing of the others
is dropped. -/
theorem follow_iff (hfirst : Intact first.toList) (hword : encoded special first.toList ≠ []) :
    Follow special ss (first :: texts) (.segments (extended special ss (first :: texts))) ↔
      ∀ text ∈ texts, Intact text.toList := by
  have hundotted := (intact_iff.mp hfirst).1
  constructor
  · rintro ⟨more, hpath, hmore, -⟩
    cases more with
    | nil => cases hmore
    | cons segment more =>
      -- The word is at its place whatever follows it, so the others stand behind it as they are.
      rw [List.map_cons, List.map_cons, List.cons.injEq] at hmore
      rw [Path.segments.injEq, extended_cons hundotted,
        List.append_cons (trunk ss) segment] at hpath
      have htexts : more.map percentDecode? = (texts.map String.toList).map some := by
        rw [hmore.2, List.map_map]
        rfl
      have hall := intact_of_foldl_appendSegment (by simp) (by simp) hpath htexts
      exact fun text htext => hall _ (List.mem_map_of_mem htext)
  · intro hintact
    refine ⟨_, congrArg _ (extended_of_undotted hundotted hword
      fun text htext => (intact_iff.mp (hintact text htext)).1), ?_, ?_⟩
    · rw [List.map_map]
      refine List.map_congr_left fun text htext => ?_
      have htext' : Intact text.toList := by
        rcases List.mem_cons.mp htext with rfl | htext
        · exact hfirst
        · exact hintact text htext
      show percentDecode? (encoded special text.toList) = _
      rw [percentDecode?_encoded, (intact_iff.mp htext').2]
    · intro segment hsegment c hc
      obtain ⟨text, -, rfl⟩ := List.mem_map.mp hsegment
      exact ne_of_mem_encoded hc

/-- Addresses that differ in their paths differ in the texts of these. -/
theorem Address.text_eq_iff (a : Address) (p q : Path) :
    Address.text { a with path := p } = Address.text { a with path := q } ↔ p.chars = q.chars := by
  have hauthority (p : Path) :
      Address.authorityChars { a with path := p } = a.authorityChars := rfl
  simp only [Address.text, String.ofList_inj, Address.chars, hauthority, List.append_assoc,
    List.append_cancel_right_eq, List.append_cancel_left_eq, List.cons_append,
    List.cons.injEq, true_and]

/-- So do paths that differ in one segment. -/
theorem Path.chars_eq_iff (front back : List (List Char)) (x y : List Char) :
    (Path.segments (front ++ x :: back)).chars = (Path.segments (front ++ y :: back)).chars ↔
      x = y := by
  simp only [Path.chars, List.flatMap_append, List.flatMap_cons, List.append_cancel_left_eq,
    List.append_cancel_right_eq, List.cons.injEq, true_and]

theorem encoded_eq_iff {a b : List Char} :
    encoded special a = encoded special b ↔ withoutStripped a = withoutStripped b := by
  constructor
  · intro h
    have hdecode := percentDecode?_encoded special a
    rw [h, percentDecode?_encoded, Option.some.injEq] at hdecode
    exact hdecode.symm
  · intro h
    rw [encoded, encoded, h]

end Url

/-! ## Symbols -/

/-- A symbol that a text asks for has a dash, and so is no dot segment. -/
theorem Symbol.undotted_ofText (raw : String) : Undotted (ofText raw).text.toList := by
  have hkept : '-' ∈ withoutStripped (ofText raw).text.toList :=
    List.mem_filter.mpr ⟨(canonical_ofText raw).dash_mem, by decide⟩
  constructor
  · intro heq
    rw [heq] at hkept
    exact absurd hkept (by decide)
  · intro heq
    rw [heq] at hkept
    exact absurd hkept (by decide)

namespace ApiSettings

variable {s : ApiSettings} {base : Address} {ss : List (List Char)} {a b : Symbol} {u v : Address}

theorem endpoint_eq (hread : Address.read s.baseUrl = .ok base) (hpath : base.path = .segments ss)
    (texts : List String) :
    s.endpoint texts =
      .ok { base with path := .segments (extended (isSpecial base.scheme) ss texts) } := by
  simp only [endpoint, hread, Address.extend?, hpath]
  rfl

/-- Of two symbols that are no dot segments the candles have one address exactly if the symbols
differ in nothing but what is dropped. -/
theorem candles_text_eq_iff (hread : Address.read s.baseUrl = .ok base)
    (hpath : base.path = .segments ss) (ha : Undotted a.text.toList) (hb : Undotted b.text.toList)
    (hu : s.candlesEndpoint a = .ok u) (hv : s.candlesEndpoint b = .ok v) :
    u.text = v.text ↔ withoutStripped a.text.toList = withoutStripped b.text.toList := by
  rw [candlesEndpoint, endpoint_eq hread hpath, Except.ok.injEq] at hu hv
  have hlast (symbol : Symbol) (h : Undotted symbol.text.toList) :
      extended (isSpecial base.scheme) ss ["market", "candles", s.exchange, symbol.text] =
        _ ++ [encoded (isSpecial base.scheme) symbol.text.toList] := appendSegment_of_undotted h
  rw [← hu, ← hv, Address.text_eq_iff, hlast a ha, hlast b hb, Path.chars_eq_iff, encoded_eq_iff]

/-- So have their indicators. -/
theorem analysis_text_eq_iff (hread : Address.read s.baseUrl = .ok base)
    (hpath : base.path = .segments ss) (ha : Undotted a.text.toList) (hb : Undotted b.text.toList)
    (hu : s.analysisEndpoint a = .ok u) (hv : s.analysisEndpoint b = .ok v) :
    u.text = v.text ↔ withoutStripped a.text.toList = withoutStripped b.text.toList := by
  rw [analysisEndpoint, endpoint_eq hread hpath, Except.ok.injEq] at hu hv
  have hcoin : encoded (isSpecial base.scheme) "coin".toList ≠ [] := by
    cases isSpecial base.scheme <;> decide
  have hanalysis : Undotted "analysis".toList := ⟨by decide, by decide⟩
  have hsegments (symbol : Symbol) (h : Undotted symbol.text.toList) :
      extended (isSpecial base.scheme) ss ["coin", symbol.text, "analysis"] =
        (trunk ss ++ [encoded (isSpecial base.scheme) "coin".toList]) ++
          encoded (isSpecial base.scheme) symbol.text.toList ::
            [encoded (isSpecial base.scheme) "analysis".toList] := by
    have hall : ∀ text ∈ [symbol.text, "analysis"], Undotted text.toList :=
      List.forall_mem_cons.mpr ⟨h, List.forall_mem_singleton.mpr hanalysis⟩
    rw [extended_of_undotted ⟨by decide, by decide⟩ hcoin hall, List.append_assoc]
    rfl
  rw [← hu, ← hv, Address.text_eq_iff, hsegments a ha, hsegments b hb, Path.chars_eq_iff,
    encoded_eq_iff]

/-- **Addresses of symbols.** The candles and the indicators of a symbol are below the address of
the backend, which keeps its scheme, its authority, its query and its fragment. Behind the path of
the backend the words of the resource follow with the exchange and the symbol, each as one segment
from which it is decoded, exactly if these have no tab and no line break and are no dot segment. Two
symbols that are no dot segments, as none is that a text asks for, have one address exactly if they
differ in nothing but tabs and line breaks. -/
theorem endpoints_of_symbols (s : ApiSettings) {base : Address} {ss : List (List Char)}
    (hread : Address.read s.baseUrl = .ok base) (hpath : base.path = .segments ss) :
    (∀ symbol, ∃ path, s.candlesEndpoint symbol = .ok { base with path := path } ∧
      (Follow (isSpecial base.scheme) ss ["market", "candles", s.exchange, symbol.text] path ↔
        Intact s.exchange.toList ∧ Intact symbol.text.toList)) ∧
      (∀ symbol, ∃ path, s.analysisEndpoint symbol = .ok { base with path := path } ∧
        (Follow (isSpecial base.scheme) ss ["coin", symbol.text, "analysis"] path ↔
          Intact symbol.text.toList)) ∧
      (∀ a b, Undotted a.text.toList → Undotted b.text.toList → ∀ u v,
        (s.candlesEndpoint a = .ok u → s.candlesEndpoint b = .ok v →
          (u.text = v.text ↔ withoutStripped a.text.toList = withoutStripped b.text.toList)) ∧
        (s.analysisEndpoint a = .ok u → s.analysisEndpoint b = .ok v →
          (u.text = v.text ↔ withoutStripped a.text.toList = withoutStripped b.text.toList))) ∧
      ∀ raw, Undotted (Symbol.ofText raw).text.toList := by
  have hmarket : encoded (isSpecial base.scheme) "market".toList ≠ [] := by
    cases isSpecial base.scheme <;> decide
  have hcoin : encoded (isSpecial base.scheme) "coin".toList ≠ [] := by
    cases isSpecial base.scheme <;> decide
  have hcandles : Intact "candles".toList := by decide
  have hanalysis : Intact "analysis".toList := by decide
  refine ⟨fun symbol => ⟨_, endpoint_eq hread hpath _, ?_⟩,
    fun symbol => ⟨_, endpoint_eq hread hpath _, ?_⟩, fun a b ha hb u v =>
    ⟨candles_text_eq_iff hread hpath ha hb, analysis_text_eq_iff hread hpath ha hb⟩,
    Symbol.undotted_ofText⟩
  · rw [follow_iff (by decide) hmarket]
    simp only [List.forall_mem_cons, hcandles, List.not_mem_nil, false_imp_iff, implies_true,
      true_and, and_true]
  · rw [follow_iff (by decide) hcoin]
    simp only [List.forall_mem_cons, hanalysis, List.not_mem_nil, false_imp_iff, implies_true,
      and_true]

/-- Settings with a backend on this machine. -/
def loopback (exchange : String) : ApiSettings :=
  (atUrl "http://[::1]:8000/api/?key#top").withExchange exchange

/-- Its address. -/
def loopbackAddress : Address where
  scheme := "http".toList
  authority := some ⟨[], [], .ipv6 [0, 0, 0, 0, 0, 0, 0, 1], some 8000⟩
  guarded := false
  path := .segments ["api".toList, []]
  query := some "key".toList
  fragment := some "top".toList

/-- A symbol with characters that are encoded. -/
theorem endpoints_of_symbols_encoded :
    Address.read (loopback "coinbase").baseUrl = .ok loopbackAddress ∧
      ∃ path, (loopback "coinbase").candlesEndpoint ⟨"É/?#%-USD"⟩ =
          .ok { loopbackAddress with path := path } ∧
        Follow true ["api".toList, []] ["market", "candles", "coinbase", "É/?#%-USD"] path := by
  have hread : Address.read (loopback "coinbase").baseUrl = .ok loopbackAddress := rfl
  obtain ⟨path, hpath, hfollow⟩ := (endpoints_of_symbols _ hread rfl).1 ⟨"É/?#%-USD"⟩
  exact ⟨hread, path, hpath, hfollow.mpr ⟨by decide, by decide⟩⟩

/-- Two symbols with one address, and an exchange that takes the word before it away. -/
theorem endpoints_of_symbols_dropped :
    (loopback "coinbase").candlesEndpoint ⟨"A\tB-USD"⟩ =
        (loopback "coinbase").candlesEndpoint ⟨"AB-USD"⟩ ∧
      (loopback ".\t.").candlesEndpoint ⟨"AB-USD"⟩ =
        .ok { loopbackAddress with
          path := .segments ["api".toList, "market".toList, [], "AB-USD".toList] } :=
  ⟨rfl, rfl⟩

end ApiSettings

end TickChart
