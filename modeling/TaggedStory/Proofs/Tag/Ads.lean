import TaggedStory.Proofs.Tag.Scattered
import TaggedStory.Proofs.Text.Thinning
/-!
Advertisement marks in free text. Only letters, colons and digits stand between the two signs of a mark, so that
no mark reaches from a text without one into a tag that follows.
-/
set_option autoImplicit false

namespace TaggedStory.Tag

open Text Scanner

theorem digit_no_colon (c : Char) (rest : List Char) (digit : isDigit c = true) : StateT.run colon (c :: rest) = none := by
  cases done : StateT.run colon (c :: rest) with
  | none => rfl
  | some pair =>
      obtain ⟨sign, isColon, shape⟩ := (colon_succeeds _ pair.2 pair.1).mp done
      rw [(List.cons.inj shape).1] at digit
      rcases isColon with rfl | rfl <;> cases digit

-- A number that ends at the closing sign is read alike whatever follows the sign.
theorem ad_number_again (text rest value : List Char) (done : StateT.run adNumber text = some (value, '》' :: rest)) :
    ∃ body, text = body ++ '》' :: rest ∧
      ∀ other, StateT.run adNumber (body ++ '》' :: other) = some (value, '》' :: other) := by
  rw [adNumber] at done
  obtain ⟨mark, afterMark, first, done⟩ := (bind_succeeds _ _ _ _ _).mp done
  obtain ⟨number, afterNumber, shape, filled, accepted, done⟩ := many1_then done
  by_cases short : number.length ≤ 3
  · rw [if_pos short, pure_succeeds] at done
    obtain ⟨rfl, rfl⟩ := done
    have last (other : List Char) : StateT.run (do
        let number ← digits
        if number.length ≤ 3 then return number else failure) (number ++ '》' :: other) = some (number, '》' :: other) := by
      have run := run_many1 isDigit number '》' other filled accepted (by decide)
      refine (bind_succeeds _ _ _ _ _).mpr ⟨number, _, run, ?_⟩
      rw [if_pos short]
      rfl
    rcases (optional_succeeds _ _ _ _).mp first with ⟨_, rfl, colonRead⟩ | ⟨rfl, rfl, _⟩
    · obtain ⟨sign, isColon, rfl⟩ := (colon_succeeds _ _ _).mp colonRead
      refine ⟨sign :: number, by rw [shape, List.cons_append], fun other => ?_⟩
      have again := (colon_succeeds (sign :: (number ++ '》' :: other)) _ ()).mpr ⟨sign, isColon, rfl⟩
      exact (bind_succeeds _ _ _ _ _).mpr ⟨_, _, (optional_succeeds _ _ _ _).mpr (.inl ⟨(), rfl, again⟩), last other⟩
    · refine ⟨number, shape, fun other => ?_⟩
      obtain ⟨digit, more, rfl⟩ := List.exists_cons_of_ne_nil filled
      have again := digit_no_colon digit (more ++ '》' :: other) (accepted digit List.mem_cons_self)
      exact (bind_succeeds _ _ _ _ _).mpr ⟨_, _, optional_refused _ _ again, last other⟩
  · rw [if_neg short, failure_fails] at done
    cases done

-- The token of a mark, from its opening to its closing sign, is a mark in every text.
theorem ad_again (text rest value : List Char) (done : StateT.run ad text = some (value, rest)) :
    ∃ body, text = enclosed '《' '》' body ++ rest ∧ (∀ c ∈ body, isAdSign c = true) ∧
      ad.Reads (enclosed '《' '》' body) value := by
  obtain ⟨inner, whole, _, signs⟩ := ad_encloses text rest value done
  refine ⟨inner, by simp [whole, enclosed], signs, fun other => ?_⟩
  rw [ad] at done
  obtain ⟨afterWord, shape, done⟩ := word_then done
  obtain ⟨number, afterNumber, second, done⟩ := (bind_succeeds _ _ _ _ _).mp done
  obtain ⟨after, rfl, done⟩ := char_then done
  obtain ⟨rfl, rfl⟩ := (pure_succeeds _ _ _ _).mp done
  obtain ⟨body, rfl, again⟩ : ∃ body, afterWord = body ++ '》' :: after ∧
      ∀ other, StateT.run (Scanner.optional adNumber) (body ++ '》' :: other) = some (number, '》' :: other) := by
    rcases (optional_succeeds _ _ _ _).mp second with ⟨found, rfl, read⟩ | ⟨rfl, rfl, _⟩
    · obtain ⟨body, same, again⟩ := ad_number_again _ _ _ read
      exact ⟨body, same, fun other => (optional_succeeds _ _ _ _).mpr (.inl ⟨found, rfl, again other⟩)⟩
    · exact ⟨[], rfl, fun other => rfl⟩
  have letters : inner = 'A' :: 'D' :: body := by
    rw [whole, show "《AD".toList = ['《', 'A', 'D'] from rfl, List.cons_append, List.cons.injEq] at shape
    exact List.append_cancel_right (shape.2.trans (by simp))
  have written : enclosed '《' '》' inner ++ other = "《AD".toList ++ (body ++ '》' :: other) := by
    simp [letters, enclosed]
  rw [written]
  refine (bind_succeeds _ _ _ _ _).mpr ⟨(), _, (word_succeeds _ _ _ _).mpr rfl, ?_⟩
  exact (bind_succeeds _ _ _ _ _).mpr ⟨number, _, again other, rfl⟩

theorem ad_misses_before (text rest : List Char) (absent : ad.first? text = none)
    (stops : ∀ c ∈ rest.head?, c ≠ '》' ∧ isAdSign c = false) : ad.Misses text rest := by
  induction text with
  | nil => trivial
  | cons c text ih =>
      rw [first?] at absent
      cases here : here? ad (c :: text) with
      | some found =>
          rw [here] at absent
          cases absent
      | none =>
          rw [here] at absent
          refine ⟨?_, ih absent⟩
          cases done : StateT.run ad (c :: (text ++ rest)) with
          | none => rfl
          | some pair =>
              exfalso
              obtain ⟨value, after⟩ := pair
              obtain ⟨body, shape, signs, reads⟩ := ad_again _ _ _ done
              rw [enclosed, List.cons_append, List.append_assoc, List.singleton_append, List.cons.injEq] at shape
              obtain ⟨rfl, shape⟩ := shape
              rcases List.append_eq_append_iff.mp shape with ⟨more, whole, tail⟩ | ⟨more, whole, tail⟩
              · -- The mark would reach into the rest, which begins with no sign of a mark.
                cases more with
                | nil => exact (stops '》' (by rw [tail]; rfl)).1 rfl
                | cons d more =>
                    have outside := (stops d (by rw [tail]; rfl)).2
                    rw [signs d (by rw [whole]; exact List.mem_append_right text List.mem_cons_self)] at outside
                    cases outside
              · cases more with
                | nil => exact (stops '》' (by rw [← List.nil_append rest, ← tail]; rfl)).1 rfl
                | cons d more =>
                    obtain ⟨rfl, _⟩ := List.cons.inj tail
                    have found := here_reads ad _ _ reads more
                    rw [enclosed, List.cons_append, List.append_assoc, List.singleton_append, ← whole, here] at found
                    cases found

section Written

variable (isRequired : Bool) (adType : String)
variable (known : isRequired = false ∧ adType = "" ∨ isRequired = true ∧ adType ∈ ["fullscreen", "rewarded", "splash"])

include known

theorem ad_written : adMarkText isRequired adType false = "" ∧ isRequired = false ∧ adType = "" ∨
    (adMarkText isRequired adType false).toList.head? = some '《' ∧ isRequired = true ∧
      ∃ number, adTypeFor number = adType ∧ ad.Reads (adMarkText isRequired adType false).toList number := by
  rcases known with ⟨rfl, rfl⟩ | ⟨rfl, member⟩
  · exact .inl ⟨rfl, rfl, rfl⟩
  · simp only [List.mem_cons, List.not_mem_nil, or_false] at member
    rcases member with rfl | rfl | rfl
    · exact .inr ⟨rfl, rfl, ['1', '5'], rfl, fun _ => rfl⟩
    · exact .inr ⟨rfl, rfl, ['3', '0'], rfl, fun _ => rfl⟩
    · exact .inr ⟨rfl, rfl, ['3'], rfl, fun _ => rfl⟩

theorem ad_mark_tame : Tame ['[', '<', '\x7b'] (adMarkText isRequired adType false).toList := by
  rcases known with ⟨rfl, _⟩ | ⟨rfl, member⟩
  · exact Tame.nil
  · simp only [List.mem_cons, List.not_mem_nil, or_false] at member
    rcases member with rfl | rfl | rfl
    · exact Tame.enclosed '《' '》' "AD:15".toList (by decide) (by decide) (by decide) (by decide) (by decide)
    · exact Tame.enclosed '《' '》' "AD:30".toList (by decide) (by decide) (by decide) (by decide) (by decide)
    · exact Tame.enclosed '《' '》' "AD:3".toList (by decide) (by decide) (by decide) (by decide) (by decide)

-- A written mark is taken out of the text in which it stands, and says what it was written for.
theorem ad_taken (before after : List Char) (absent : ad.first? before = none) (absentAfter : ad.first? after = none)
    (stops : ∀ c ∈ after.head?, c ≠ '》' ∧ isAdSign c = false) (tight : Tight (before ++ after)) :
    takeAd (before ++ ((adMarkText isRequired adType false).toList ++ after)) = (before ++ after, ⟨isRequired, adType⟩) := by
  rcases ad_written isRequired adType known with ⟨none, rfl, rfl⟩ | ⟨front, rfl, number, same, reads⟩
  · have missed := first_misses ad before after (ad_misses_before before after absent stops)
    rw [none, String.toList_empty, List.nil_append, takeAd, missed, absentAfter]
  · have filled := List.ne_nil_of_mem (List.mem_of_mem_head? front)
    have missed : ad.Misses before ((adMarkText true adType false).toList ++ after) := by
      refine ad_misses_before before _ absent fun c head => ?_
      rw [List.head?_append, front] at head
      cases head
      decide
    have present := first_misses ad before _ missed
    rw [first_reads ad _ number filled reads after] at present
    have removed := Rule.take_among ad _ number reads filled before after missed tight
    rw [Rule.take] at removed
    rw [takeAd, present]
    simp only [removed, same]

end Written

end TaggedStory.Tag
