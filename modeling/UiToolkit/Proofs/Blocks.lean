import UiToolkit.Proofs.Emission

/-!
# Blocks of the written text

The text of a conversion is a sequence of blocks, one for each kept rule and in the order of the rules. A block has a header and at least one line.
-/

namespace UiToolkit

@[ext] structure Block where
  header : List Text
  lines : Entries Text
  deriving DecidableEq

namespace Block

def text (b : Block) : Text := Outcome.block b.header b.lines

end Block

def Outcome.block? : Outcome → Option Block
  | .kept header lines => some ⟨header, lines⟩
  | .dropped _ => none

namespace Converter

open Attempt

/-- The blocks of the rules that are kept. -/
def blocks (c : Converter) (rules : List Rule) : List Block :=
  rules.filterMap fun r => (c.verdict r).toOption.bind (·.outcome.block?)

theorem mem_blocks {c : Converter} {rules : List Rule} {b : Block} :
    b ∈ c.blocks rules ↔ ∃ r ∈ rules, c.Keeps r b.header b.lines := by
  rw [blocks, List.mem_filterMap]
  refine exists_congr fun r => and_congr_right fun _ => ?_
  rw [Keeps, Option.bind_eq_some_iff]
  refine exists_congr fun v => ?_
  cases c.verdict r with
  | error e => simp [Except.toOption]
  | ok v' =>
    rw [Except.toOption, Option.some.injEq, Except.ok.injEq]
    refine and_congr_right fun _ => ?_
    cases v.outcome with
    | kept header pairs => simp [Outcome.block?, Block.ext_iff]
    | dropped reason => simp [Outcome.block?]

theorem text_eq_blocks {c : Converter} {rules : List Rule} {conv : Conversion} (h : c.convertRules rules = .ok conv) :
    conv.text = (c.blocks rules).flatMap Block.text := by
  obtain ⟨verdicts, hverdicts, rfl⟩ := map_apply_eq_ok.mp h
  have hall := mapM_eq_ok.mp hverdicts
  rw [conversionOf, blocks]
  clear hverdicts h
  induction hall with
  | nil => rfl
  | @cons r v rules verdicts hv _ ih =>
    rw [List.flatMap_cons, List.filterMap_cons, hv]
    cases houtcome : v.outcome with
    | kept header pairs =>
      simp only [Except.toOption, Option.bind_some, houtcome, Outcome.block?, List.flatMap_cons]
      exact congrArg _ ih
    | dropped reason =>
      simp only [Except.toOption, Option.bind_some, houtcome, Outcome.block?]
      exact ih

end Converter

end UiToolkit
