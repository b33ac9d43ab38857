import ScriptLint.Proofs.Literals.Alike
import ScriptLint.Proofs.Macros.Arguments

/-! Arguments as they are written. A text whose literals are all closed is masked in the same way
wherever it stands, so the mask of a list of such arguments lists their masks. -/
namespace ScriptLint

namespace Literal

/-- Behind a character that the mask leaves, and that is neither a blank nor a quote, the mask is
that of the rest. -/
theorem Mode.drop_maskContents {mode : Mode} {text : List Char} {k : Nat} {c : Char}
    (hc : (mode.maskContents text)[k]? = some c) (hquote : ¬IsQuote c) (hblank : c ≠ ' ') :
    (mode.maskContents text).drop (k + 1) = Literal.maskContents (text.drop (k + 1)) := by
  induction text generalizing mode k with
  | nil => cases hc
  | cons x xs ih =>
    rw [maskContents_cons] at hc ⊢
    cases k with
    | zero =>
      have hx := Option.some.inj hc
      by_cases hcontent : (mode.read x xs.head?).1 = .content
      · rw [if_pos hcontent] at hx
        exact absurd hx.symm hblank
      · rw [if_neg hcontent] at hx
        -- No literal is open behind the character, so the mask starts anew.
        rw [Mode.read_eq_outside (hx ▸ hquote) hcontent]
        rfl
    | succ k => exact ih hc

/-- The literals of the text are closed: it is masked as on its own whatever stands behind it, and
so is what stands behind it. -/
def Complete (text : List Char) : Prop :=
  ∀ behind, maskContents (text ++ behind) = maskContents text ++ maskContents behind

theorem Complete.append {a b : List Char} (ha : Complete a) (hb : Complete b) :
    Complete (a ++ b) := by
  intro behind
  rw [List.append_assoc, ha, hb, ha, List.append_assoc]

theorem complete_of_unquoted {text : List Char} (h : ∀ c ∈ text, ¬IsQuote c) : Complete text := by
  intro behind
  rw [maskContents_append h, maskContents_of_unquoted h]

theorem not_isQuote_of_isBlank {c : Char} (h : Text.isBlank c = true) : ¬IsQuote c := by
  rintro (rfl | rfl) <;> exact absurd h (by decide)

end Literal

namespace Arguments

open Literal

/-- Blanks around an argument stay, and the argument is masked on its own. -/
theorem Pads.masked {arg text : List Char} (h : Pads arg text) (harg : Complete arg) :
    Complete text ∧ Pads (maskContents arg) (maskContents text) := by
  obtain ⟨before, after, rfl, hbefore, hafter⟩ := h
  have hunquoted : ∀ c ∈ before, ¬IsQuote c := fun c hc => not_isQuote_of_isBlank (hbefore c hc)
  have hunquoted' : ∀ c ∈ after, ¬IsQuote c := fun c hc => not_isQuote_of_isBlank (hafter c hc)
  refine ⟨(complete_of_unquoted hunquoted).append (harg.append (complete_of_unquoted hunquoted')),
    before, after, ?_, hbefore, hafter⟩
  rw [maskContents_append hunquoted, harg, maskContents_of_unquoted hunquoted']

/-- The mask of a list of arguments lists the masks of the arguments. -/
theorem Lists.masked {args : List (List Char)} {inner : List Char} (h : Lists args inner)
    (hargs : ∀ arg ∈ args, Complete arg) :
    Complete inner ∧ Lists (args.map maskContents) (maskContents inner) := by
  induction h with
  | none hblanks =>
    have hunquoted := fun c hc => not_isQuote_of_isBlank (hblanks c hc)
    refine ⟨complete_of_unquoted hunquoted, .none ?_⟩
    rwa [maskContents_of_unquoted hunquoted]
  | one hpads =>
    obtain ⟨hcomplete, hmask⟩ := hpads.masked (hargs _ List.mem_cons_self)
    exact ⟨hcomplete, .one hmask⟩
  | @more arg next text rest args hpads _ ih =>
    obtain ⟨hcomplete, hmask⟩ := hpads.masked (hargs _ List.mem_cons_self)
    obtain ⟨hrest, hlist⟩ := ih fun arg h => hargs arg (List.mem_cons_of_mem _ h)
    have hcomma : ∀ c ∈ [','], ¬IsQuote c := List.forall_mem_singleton.mpr (by decide)
    have hbehind : maskContents (',' :: rest) = ',' :: maskContents rest :=
      maskContents_append hcomma rest
    refine ⟨hcomplete.append ((complete_of_unquoted hcomma).append hrest), ?_⟩
    rw [hcomplete, hbehind]
    exact .more hmask hlist

end Arguments

end ScriptLint
