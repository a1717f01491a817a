import TaggedStory.Node.Text
import TaggedStory.Proofs.Decimal.Legible
import TaggedStory.Proofs.Tag.Enclosure
import TaggedStory.Proofs.Text.Places
/-!
The digits that a recogniser hands out are digits of the text that it consumed.
-/
set_option autoImplicit false

namespace TaggedStory.Text.Scanner

open Decimal Tag

variable {α β : Type}

-- With `base` digits in hand before, the value and the rest have no more digits than those and the text's.
def Draws (base : Nat) (s : Scanner α) (size : α → Nat) : Prop :=
  ∀ text rest value, StateT.run s text = some (value, rest) → size value + figures rest ≤ base + figures text

theorem draws_pure (base : Nat) (value : α) (size : α → Nat) (small : size value ≤ base) :
    Draws base (pure value) size := by
  intro text rest result done
  obtain ⟨rfl, rfl⟩ := (pure_succeeds _ _ _ _).mp done
  exact Nat.add_le_add_right small _

theorem draws_bind (base : Nat) (s : Scanner α) (next : α → Scanner β) (size : α → Nat) (total : β → Nat)
    (first : Draws base s size) (second : ∀ value, Draws (size value) (next value) total) :
    Draws base (s >>= next) total := by
  intro text rest result done
  obtain ⟨value, middle, read, done⟩ := (bind_succeeds _ _ _ _ _).mp done
  exact Nat.le_trans (second value middle rest result done) (first text middle value read)

theorem draws_split (base : Nat) (s : Scanner α)
    (splits : ∀ text rest value, StateT.run s text = some (value, rest) → ∃ piece, text = piece ++ rest) :
    Draws base s fun _ => base := by
  intro text rest value done
  obtain ⟨piece, rfl⟩ := splits text rest value done
  rw [figures_append]
  exact Nat.add_le_add_left (Nat.le_add_left _ _) base

theorem draws_char (base : Nat) (c : Char) : Draws base (char c) fun _ => base :=
  draws_split base _ fun _ _ _ done => ⟨[c], (char_succeeds _ _ _ _).mp done⟩

theorem draws_word (base : Nat) (expected : String) : Draws base (word expected) fun _ => base :=
  draws_split base _ fun _ _ _ done => ⟨_, (word_succeeds _ _ _ _).mp done⟩

theorem draws_one (base : Nat) (accepts : Char → Bool) : Draws base (one accepts) fun _ => base :=
  draws_split base _ fun _ _ value done => ⟨[value], ((one_succeeds _ _ _ _).mp done).1⟩

theorem draws_colon (base : Nat) : Draws base colon fun _ => base :=
  draws_split base _ fun _ _ _ done => by
    obtain ⟨c, _, shape⟩ := (colon_succeeds _ _ _).mp done
    exact ⟨[c], shape⟩

theorem draws_blanks (base : Nat) : Draws base blanks fun _ => base :=
  draws_split base _ fun _ _ _ done => by
    obtain ⟨gap, shape, _⟩ := blanks_split _ _ _ done
    exact ⟨gap, shape⟩

theorem draws_passed (base : Nat) (accepts : Char → Bool) : Draws base (many1 accepts) fun _ => base :=
  draws_split base _ fun _ _ value done => ⟨value, (many_succeeds _ _ _ _ (many1_succeeds _ _ _ _ done).2).1⟩

theorem draws_many1 (base : Nat) (accepts : Char → Bool) : Draws base (many1 accepts) fun value => base + figures value := by
  intro text rest value done
  obtain ⟨rfl, _⟩ := many_succeeds _ _ _ _ (many1_succeeds _ _ _ _ done).2
  rw [figures_append]
  exact Nat.le_of_eq (Nat.add_assoc base _ _)

theorem draws_optional (base : Nat) (s : Scanner α) (size : α → Nat) (draws : Draws base s size) :
    Draws base (optional s) fun found => found.elim base size := by
  intro text rest value done
  rcases (optional_succeeds _ _ _ _).mp done with ⟨found, rfl, read⟩ | ⟨rfl, rfl, _⟩
  · exact draws text rest found read
  · exact Nat.le_refl _

theorem draws_decimal (base : Nat) : Draws base decimal fun value => base + figures value := by
  refine draws_bind base _ _ _ _ (draws_many1 base isDigit) fun whole => ?_
  refine draws_bind _ _ _ _ _ (draws_optional _ _ _ (draws_bind _ _ _ _ _ (draws_char _ '.') fun _ =>
    draws_many1 _ isDigit)) fun part => ?_
  cases part with
  | none => exact draws_pure _ _ _ (Nat.le_refl _)
  | some part =>
      refine draws_pure _ _ _ ?_
      have point : figures ('.' :: part) = figures part := List.countP_cons_of_neg (by decide)
      simp only [figures_append, point, Option.elim_some]
      omega

section Use

variable (s : Scanner α) (size : α → Nat) (draws : Draws 0 s size)

include draws

theorem here_draws (text : List Char) (found : Found α) (present : here? s text = some found) :
    size found.value ≤ figures text := by
  obtain ⟨rest, run⟩ := here_run s text found present
  have bound := draws text rest found.value run
  omega

theorem stands_draws (text : List Char) (found : Found α) (stands : s.Stands text found) : size found.value ≤ figures text := by
  obtain ⟨before, rest, rfl, here⟩ := stands
  have shorter : figures rest ≤ figures (before ++ rest) := figures_sublist _ _ (List.sublist_append_right before rest)
  exact Nat.le_trans (here_draws s size draws rest found here) shorter

theorem first_draws (text : List Char) (found : Found α) (present : s.first? text = some found) :
    size found.value ≤ figures text :=
  stands_draws s size draws text found (first_stands s text found present)

theorem all_draws (text : List Char) (found : Found α) (present : found ∈ s.all text) : size found.value ≤ figures text :=
  stands_draws s size draws text found (all_stands s text found present)

end Use

end TaggedStory.Text.Scanner

namespace TaggedStory

open Text Scanner Decimal Tag

def pairFigures (pair : List Char × List Char) : Nat :=
  figures pair.1 + figures pair.2

theorem Mark.tier_draws : Draws 0 tier figures := by
  refine draws_bind _ _ _ _ _ (draws_char 0 '[') fun _ => draws_bind _ _ _ _ _ (draws_blanks 0) fun _ =>
    draws_bind _ _ _ _ _ (draws_word 0 "层级") fun _ => draws_bind _ _ _ _ _ (draws_blanks 0) fun _ =>
    draws_bind _ _ _ _ _ (draws_colon 0) fun _ => draws_bind _ _ _ _ _ (draws_blanks 0) fun _ => ?_
  refine draws_bind _ _ _ figures _ ?_ fun value => draws_bind _ _ _ _ _ (draws_blanks _) fun _ =>
    draws_bind _ _ _ _ _ (draws_char _ ']') fun _ => draws_pure _ _ _ (Nat.le_refl _)
  refine draws_bind _ _ _ _ _ (draws_optional 0 _ _ (draws_char 0 '-')) fun minus => ?_
  have none : minus.elim 0 (fun _ => 0) = 0 := by cases minus <;> rfl
  rw [none]
  refine draws_bind _ _ _ _ _ (draws_many1 0 isDigit) fun body => ?_
  cases minus with
  | none => exact draws_pure _ _ _ (by simp)
  | some _ =>
      have sign : figures ('-' :: body) = figures body := List.countP_cons_of_neg (by decide)
      exact draws_pure _ _ _ (by simp [sign])

theorem Choice.counted_draws : Draws 0 countedProbability pairFigures := by
  refine draws_bind _ _ _ _ _ (draws_char 0 '《') fun _ => draws_bind _ _ _ _ _ (draws_decimal 0) fun amount =>
    draws_bind _ _ _ _ _ (draws_char _ '%') fun _ => draws_bind _ _ _ _ _ (draws_colon _) fun _ =>
    draws_bind _ _ _ _ _ (draws_many1 _ isDigit) fun count => draws_bind _ _ _ _ _ (draws_char _ '》') fun _ =>
    draws_pure _ _ _ ?_
  simp only [pairFigures]
  omega

theorem Choice.plain_draws : Draws 0 plainProbability figures :=
  draws_bind _ _ _ _ _ (draws_char 0 '《') fun _ => draws_bind _ _ _ _ _ (draws_decimal 0) fun _ =>
    draws_bind _ _ _ _ _ (draws_word _ "%》") fun _ => draws_pure _ _ _ (by omega)

theorem Video.random_time_draws : Draws 0 randomTime pairFigures := by
  refine draws_bind _ _ _ _ _ (draws_word 0 "[随机时间事件") fun _ =>
    draws_bind _ _ _ _ _ (draws_optional 0 _ _ (draws_colon 0)) fun mark => ?_
  have none : mark.elim 0 (fun _ => 0) = 0 := by cases mark <;> rfl
  rw [none]
  refine draws_bind _ _ _ _ _ (draws_char 0 '(') fun _ => draws_bind _ _ _ _ _ (draws_many1 0 isDigit) fun low =>
    draws_bind _ _ _ _ _ (draws_char _ '-') fun _ => draws_bind _ _ _ _ _ (draws_many1 _ isDigit) fun high =>
    draws_bind _ _ _ _ _ (draws_word _ ")]") fun _ => draws_pure _ _ _ ?_
  simp only [pairFigures]
  omega

theorem Video.rate_draws : Draws 0 rate fun change => figures change.amount :=
  draws_bind _ _ _ _ _ (draws_char 0 '<') fun _ => draws_bind _ _ _ _ _ (draws_passed 0 isRateName) fun _ =>
    draws_bind _ _ _ _ _ (draws_one 0 _) fun _ => draws_bind _ _ _ _ _ (draws_blanks 0) fun _ =>
    draws_bind _ _ _ _ _ (draws_decimal 0) fun _ => draws_bind _ _ _ _ _ (draws_blanks _) fun _ =>
    draws_bind _ _ _ _ _ (draws_char _ '/') fun _ => draws_bind _ _ _ _ _ (draws_blanks _) fun _ =>
    draws_bind _ _ _ _ _ (draws_char _ 's') fun _ => draws_bind _ _ _ _ _ (draws_blanks _) fun _ =>
    draws_bind _ _ _ _ _ (draws_char _ '>') fun _ => draws_pure _ _ _ (by simp)

theorem Bgm.volume_draws : Draws 0 volumeAmount figures :=
  draws_bind _ _ _ _ _ (draws_word 0 "<S:BGM音量") fun _ => draws_bind _ _ _ _ _ (draws_blanks 0) fun _ =>
    draws_bind _ _ _ _ _ (draws_char 0 '=') fun _ => draws_bind _ _ _ _ _ (draws_blanks 0) fun _ =>
    draws_bind _ _ _ _ _ (draws_many1 0 _) fun _ => draws_bind _ _ _ _ _ (draws_char _ '>') fun _ =>
    draws_pure _ _ _ (by omega)

theorem Task.count_draws : Draws 0 taskCount figures :=
  draws_bind _ _ _ _ _ (draws_word 0 "[任务节点") fun _ => draws_bind _ _ _ _ _ (draws_colon 0) fun _ =>
    draws_bind _ _ _ _ _ (draws_many1 0 isDigit) fun _ => draws_bind _ _ _ _ _ (draws_char _ ']') fun _ =>
    draws_pure _ _ _ (by omega)

end TaggedStory
