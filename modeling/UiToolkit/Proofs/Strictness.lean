import UiToolkit.Proofs.Denylist
import UiToolkit.Proofs.Fates
import UiToolkit.Proofs.Lookup
import UiToolkit.Proofs.Overflow

/-!
# Stricter policies

A policy with more entries on its denylist can only drop more rules. A selector that meets none of the new entries is refused or accepted as before, and a rule that still survives has the header and the lines that it had, since the denylist has no part in its declarations.
-/

namespace UiToolkit

open Attempt Text

/-! ### Denylists -/

theorem Denylist.ofEntries_subset {entries more : List Text} (h : ∀ entry ∈ entries, lower entry ∈ more.map lower) :
    ofEntries entries ⊆ ofEntries more := by
  intro fragment hfragment
  obtain ⟨hmem, hne⟩ := mem_ofEntries.mp hfragment
  obtain ⟨entry, hentry, rfl⟩ := List.mem_map.mp hmem
  exact mem_ofEntries.mpr ⟨h entry hentry, hne⟩

namespace Policy

/-- The same property table, with a denylist that has every entry of the other one. -/
structure IsStricter (strict policy : Policy) : Prop where
  properties : strict.properties = policy.properties
  denylist : policy.denylist ⊆ strict.denylist

theorem IsStricter.breakingMatch?_eq_none {strict policy : Policy} (h : strict.IsStricter policy) {word : Text}
    (hword : strict.breakingMatch? word = none) : policy.breakingMatch? word = none := by
  rw [Selector.breakingMatch?_eq_none_iff] at hword ⊢
  exact fun fragment hfragment => hword fragment (h.denylist hfragment)

end Policy

variable {strict policy : Policy}

/-- A selector that does not meet the longer denylist fares as it did under the shorter one. -/
theorem Selector.refusal?_of_isStricter (h : strict.IsStricter policy) {s : Selector}
    (hs : (s.refusal? strict).any Refusal.isBreaking = false) : s.refusal? policy = s.refusal? strict := by
  unfold refusal? at hs ⊢
  cases hstrict : (words s.raw).findSome? strict.breakingMatch? with
  | some fragment =>
    rw [hstrict] at hs
    cases hs
  | none =>
    have hnone : (words s.raw).findSome? policy.breakingMatch? = none := by
      rw [List.findSome?_eq_none_iff] at hstrict ⊢
      exact fun word hword => h.breakingMatch?_eq_none (hstrict word hword)
    rw [hnone]

namespace Converter

/-- The converter with another policy. -/
def under (c : Converter) (policy : Policy) : Converter := { c with policy := policy }

/-- Two conversions of the same rules that differ only in rules that the second one drops and the first one may keep. -/
structure OnlyDrops (c c' : Converter) (rules : List Rule) (conv conv' : Conversion) : Prop where
  text : conv.text = (c.blocks rules).flatMap Block.text ∧ conv'.text = (c'.blocks rules).flatMap Block.text
  blocks : (c'.blocks rules).Sublist (c.blocks rules)
  outcome : ∀ r ∈ rules, ∃ v v', c.verdict r = .ok v ∧ c'.verdict r = .ok v' ∧
    (v'.outcome = v.outcome ∨ ∃ reason, v'.outcome = .dropped reason)
  dropped : (conv.report.dropped.map Prod.fst).Sublist (conv'.report.dropped.map Prod.fst)
  unsupported : conv'.report.unsupported ⊆ conv.report.unsupported
  notImplemented : conv'.report.notImplemented ⊆ conv.report.notImplemented

section Under

variable {c : Converter} (h : strict.IsStricter c.policy)
include h

/-! ### Declarations -/

theorem under_eq : c.under strict = ⟨⟨c.policy.properties, strict.denylist⟩, c.config, c.fallbacks⟩ := by
  rw [under, ← h.properties]

theorem handle_under : (c.under strict).handle = c.handle := by
  rw [under_eq h]
  rfl

theorem lines_under (r : Rule) : (c.under strict).lines r = c.lines r := by
  have hemitted : (c.under strict).emitted = c.emitted := by
    funext d
    rw [emitted, emitted, handle_under h]
  rw [lines, lines, hemitted]

theorem unknown?_under : (c.under strict).unknown? = c.unknown? := by
  rw [under_eq h]
  rfl

theorem unserved?_under : (c.under strict).unserved? = c.unserved? := by
  rw [under_eq h]
  rfl

/-! ### Rules -/

/-- A rule that survives under the stricter policy survived before, with the same selectors. -/
theorem survives_of_survives_under {r : Rule} (hr : (c.under strict).survives r = true) :
    c.survives r = true ∧ (c.under strict).accepted r = c.accepted r := by
  have hsame : ∀ s ∈ r.selectors, s.refusal? c.policy = s.refusal? strict := by
    intro s hs
    have hmeets := List.all_eq_true.mp (Bool.and_eq_true_iff.mp hr).1 s hs
    exact Selector.refusal?_of_isStricter h ((Bool.not_eq_true' _).mp hmeets)
  constructor
  · rw [survives, Bool.and_eq_true, List.all_eq_true, List.any_eq_true] at hr ⊢
    obtain ⟨hmeets, s, hs, haccepted⟩ := hr
    exact ⟨fun s hs => by rw [hsame s hs]; exact hmeets s hs, s, hs, by rw [hsame s hs]; exact haccepted⟩
  · rw [accepted, accepted]
    exact congrArg (List.map Selector.rewritten) (List.filter_congr fun s hs => by rw [hsame s hs]; rfl)

theorem keeps_of_keeps_under {r : Rule} (hr : (c.under strict).keeps r = true) : c.keeps r = true := by
  rw [keeps, Bool.and_eq_true, lines_under h] at hr
  rw [keeps, (survives_of_survives_under h hr.1).1, hr.2]
  rfl

theorem succeeds_verdict_under {r : Rule} (hr : Succeeds (c.verdict r)) : Succeeds ((c.under strict).verdict r) := by
  rw [verdict_succeeds_iff] at hr ⊢
  rintro ⟨header, hheader⟩ d hd
  obtain ⟨hsurvives, -⟩ := header_eq_ok_iff.mp hheader
  have hsucceeds : Succeeds (c.handle d) :=
    handle_succeeds_iff.mpr (hr (.of_eq_ok (header_eq_ok_iff.mpr ⟨(survives_of_survives_under h hsurvives).1, rfl⟩)) d hd)
  rw [← handle_succeeds_iff, handle_under h]
  exact hsucceeds

/-! ### Whole conversions -/

theorem fate_under (r : Rule) : (c.under strict).fate r = c.fate r ∨ ∃ reason, (c.under strict).fate r = .dropped reason := by
  cases hr : (c.under strict).keeps r with
  | false => exact .inr ⟨_, by rw [fate, hr, if_neg Bool.false_ne_true]⟩
  | true =>
    have haccepted := (survives_of_survives_under h (Bool.and_eq_true_iff.mp hr).1).2
    exact .inl (by rw [fate, fate, hr, keeps_of_keeps_under h hr, haccepted, lines_under h, if_pos rfl, if_pos rfl])

theorem blocks_under_sublist {rules : List Rule} (hall : ∀ r ∈ rules, Succeeds (c.verdict r)) :
    ((c.under strict).blocks rules).Sublist (c.blocks rules) := by
  rw [blocks_eq hall, blocks_eq fun r hr => succeeds_verdict_under h (hall r hr)]
  have hsame : ∀ r ∈ rules.filter (c.under strict).keeps,
      (⟨(c.under strict).accepted r, (c.under strict).lines r⟩ : Block) = ⟨c.accepted r, c.lines r⟩ := by
    intro r hr
    have hsurvives := (Bool.and_eq_true_iff.mp (List.mem_filter.mp hr).2).1
    rw [(survives_of_survives_under h hsurvives).2, lines_under h]
  rw [List.map_congr_left hsame]
  exact (List.monotone_filter_right rules fun r => keeps_of_keeps_under h).map _

/-- What the declarations of surviving rules leave to the report does not grow. -/
theorem distinct_under_subset (rules : List Rule) (name? : Declaration → Option Text) :
    Entries.distinct ((rules.filter (c.under strict).survives).flatMap fun r => r.declarations.filterMap name?) ⊆
      Entries.distinct ((rules.filter c.survives).flatMap fun r => r.declarations.filterMap name?) := by
  intro name hname
  rw [(Entries.listsOnce_distinct _).mem_iff, List.mem_flatMap] at hname ⊢
  obtain ⟨r, hr, hname⟩ := hname
  obtain ⟨hmem, hsurvives⟩ := List.mem_filter.mp hr
  exact ⟨r, List.mem_filter.mpr ⟨hmem, (survives_of_survives_under h hsurvives).1⟩, hname⟩

/-- Under a stricter policy a conversion still has a result, and it only drops rules. -/
theorem exists_onlyDrops {rules : List Rule} {conv : Conversion} (hconv : c.convertRules rules = .ok conv) :
    ∃ conv', (c.under strict).convertRules rules = .ok conv' ∧ OnlyDrops c (c.under strict) rules conv conv' := by
  obtain ⟨verdicts, hverdicts, -⟩ := map_apply_eq_ok.mp hconv
  have hall : ∀ r ∈ rules, Succeeds (c.verdict r) := succeeds_mapM.mp (.of_eq_ok hverdicts)
  obtain ⟨verdicts', hverdicts'⟩ : Succeeds (rules.mapM (c.under strict).verdict) :=
    succeeds_mapM.mpr fun r hr => succeeds_verdict_under h (hall r hr)
  have hconv' : (c.under strict).convertRules rules = .ok (conversionOf verdicts') :=
    map_apply_eq_ok.mpr ⟨verdicts', hverdicts', rfl⟩
  obtain ⟨-, hdropped, hunsupported, hnotImplemented⟩ := conversion_spec hconv
  obtain ⟨-, hdropped', hunsupported', hnotImplemented'⟩ := conversion_spec hconv'
  refine ⟨_, hconv', ⟨text_eq_blocks hconv, text_eq_blocks hconv'⟩, blocks_under_sublist h hall, fun r hr => ?_, ?_, ?_, ?_⟩
  · obtain ⟨v, hv⟩ := hall r hr
    obtain ⟨v', hv'⟩ := succeeds_verdict_under h ⟨v, hv⟩
    refine ⟨v, v', hv, hv', ?_⟩
    rw [(verdict_spec hv).2.1, (verdict_spec hv').2.1]
    exact fate_under h r
  · rw [hdropped, hdropped', List.map_map, List.map_map]
    refine (List.monotone_filter_right rules fun r hr => ?_).map Rule.selectorText
    rw [Bool.not_eq_true', ← Bool.not_eq_true] at hr ⊢
    exact fun hkeeps => hr (keeps_of_keeps_under h hkeeps)
  · rw [hunsupported, hunsupported', unknown?_under h]
    exact distinct_under_subset h rules c.unknown?
  · rw [hnotImplemented, hnotImplemented', unserved?_under h]
    exact distinct_under_subset h rules c.unserved?

end Under

/-! ### A second entry -/

/-- The policy of the sample with one more entry. -/
def stricter : Policy := { sample.policy with denylist := Denylist.ofEntries ["+", ".CARD"] }

/-- One rule meets the new entry with one of its selectors, one is kept, and the others are dropped for other reasons. -/
def cardRules : List Rule :=
  Rule.ofSources [⟨".a, p.card", [("color", "red"), ("float", "left"), ("z-index", "1")]⟩,
    ⟨".b", [("color", "blue"), ("zoom", "1")]⟩, ⟨"h1 + p", [("color", "red")]⟩, ⟨".c", [("float", "left")]⟩]

def cardConversion : Conversion where
  text := ".a, Label.card \x7b\n    color: red;\n\x7d\n.b \x7b\n    color: blue;\n\x7d\n"
  report :=
    { dropped := [("h1 + p", "breaking selector '+'"), (".c", "no supported declarations")]
      unsupported := ["float", "zoom"]
      notImplemented := ["z-index"] }

/-- The rule for the cards goes with its names in the report; the reasons that the other dropped rules are given stay. -/
def stricterConversion : Conversion where
  text := ".b \x7b\n    color: blue;\n\x7d\n"
  report :=
    { dropped :=
        [(".a, p.card", "breaking selector '.card'"), ("h1 + p", "breaking selector '+'"),
          (".c", "no supported declarations")]
      unsupported := ["zoom", "float"]
      notImplemented := [] }

theorem isStricter_sample : stricter.IsStricter sample.policy :=
  ⟨rfl, Denylist.ofEntries_subset (by decide)⟩

theorem convertRules_cardRules : sample.convertRules cardRules = .ok cardConversion := by
  decide +kernel

theorem exists_onlyDrops_cardRules :
    stricter.IsStricter sample.policy ∧ sample.convertRules cardRules = .ok cardConversion ∧
      (sample.under stricter).convertRules cardRules = .ok stricterConversion ∧
      OnlyDrops sample (sample.under stricter) cardRules cardConversion stricterConversion := by
  obtain ⟨conv', hconv', hdrops⟩ := exists_onlyDrops isStricter_sample convertRules_cardRules
  obtain rfl : conv' = stricterConversion := Except.ok.inj (hconv'.symm.trans (by decide +kernel))
  exact ⟨isStricter_sample, convertRules_cardRules, hconv', hdrops⟩

end Converter

end UiToolkit
