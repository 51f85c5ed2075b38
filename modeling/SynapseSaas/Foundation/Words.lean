import Mathlib.Data.List.Chain
import Mathlib.Data.List.DropRight

/-! Texts as words with separators between them: what is left when every run of other
characters becomes one separator and the ends are trimmed. -/

set_option autoImplicit false

namespace Words

variable {Letter : Type}

section Trim

variable (p : Letter → Bool)

theorem rdropWhile_cons (letter : Letter) (rest : List Letter) :
    (letter :: rest).rdropWhile p =
      if rest.rdropWhile p = [] then if p letter then [] else [letter]
      else letter :: rest.rdropWhile p := by
  induction rest using List.reverseRecOn with
  | nil => cases dropped : p letter <;> simp [List.rdropWhile, dropped]
  | append_singleton front last ih =>
      rw [← List.cons_append, List.rdropWhile_concat, List.rdropWhile_concat]
      cases p last with
      | true => exact ih
      | false => simp

/-- The two ends are trimmed in either order. -/
theorem dropWhile_rdropWhile (text : List Letter) :
    (text.rdropWhile p).dropWhile p = (text.dropWhile p).rdropWhile p := by
  induction text with
  | nil => rfl
  | cons letter rest ih =>
      rw [rdropWhile_cons]
      cases dropped : p letter with
      | true =>
          rw [List.dropWhile_cons_of_pos dropped, ← ih]
          split
          · next empty => simp [empty]
          · rw [List.dropWhile_cons_of_pos dropped]
      | false =>
          rw [List.dropWhile_cons_of_neg (by simp [dropped]), rdropWhile_cons]
          split
          · simp [dropped]
          · simp [dropped]

end Trim

/-- `text.strip(sep)`. -/
def trim [DecidableEq Letter] (sep : Letter) (text : List Letter) : List Letter :=
  (text.dropWhile (· = sep)).rdropWhile (· = sep)

variable (isWord : Letter → Bool) (sep : Letter)

/-- `least` or more characters in a row become one separator; `held` are those of the run so far. -/
def subRuns (inRun : Letter → Bool) (least : Nat) : List Letter → List Letter → List Letter
  | held, [] => if held.length < least then held else [sep]
  | held, letter :: rest =>
      if inRun letter then subRuns inRun least (held ++ [letter]) rest
      else
        (if held.length < least then held else [sep]) ++ letter :: subRuns inRun least [] rest

/-- Every run of characters outside words as one separator; `inside` such a run, nothing more. -/
def squeeze : Bool → List Letter → List Letter
  | _, [] => []
  | inside, letter :: rest =>
      if isWord letter then letter :: squeeze false rest
      else if inside then squeeze true rest
      else sep :: squeeze true rest

/-- The word a text begins with, and the later ones. -/
def spell : List Letter → List Letter × List (List Letter)
  | [] => ([], [])
  | letter :: rest =>
      let (word, later) := spell rest
      if isWord letter then (letter :: word, later)
      else ([], if word = [] then later else word :: later)

/-- The maximal runs of word characters. -/
def words (text : List Letter) : List (List Letter) :=
  let (word, later) := spell isWord text
  if word = [] then later else word :: later

def join : List (List Letter) → List Letter
  | [] => []
  | word :: later => word ++ later.flatMap (sep :: ·)

/-- No two separators stand side by side. -/
def Single (text : List Letter) : Prop := text.IsChain fun first second => first ≠ sep ∨ second ≠ sep

variable {isWord sep}

theorem subRuns_held {held : List Letter} (text : List Letter) :
    subRuns sep (fun letter => !isWord letter) 1 held text =
      if held = [] then squeeze isWord sep false text else sep :: squeeze isWord sep true text := by
  induction text generalizing held with
  | nil => cases held <;> simp [subRuns, squeeze]
  | cons letter rest ih =>
      rw [subRuns, ih, ih]
      cases word : isWord letter <;> cases held <;> simp [squeeze, word]

/-- The one substitution is the other. -/
theorem subRuns_eq_squeeze (text : List Letter) :
    subRuns sep (fun letter => !isWord letter) 1 [] text = squeeze isWord sep false text := by
  rw [subRuns_held, if_pos rfl]

theorem subRuns_single [DecidableEq Letter] {text : List Letter} (single : Single sep text) :
    subRuns sep (fun letter => letter = sep) 2 [] text = text ∧
      (text.head? ≠ some sep → subRuns sep (fun letter => letter = sep) 2 [sep] text = sep :: text) := by
  induction text with
  | nil => simp [subRuns]
  | cons letter rest ih =>
      obtain ⟨alone, after⟩ := ih (List.IsChain.tail single)
      constructor
      · rw [subRuns]
        split
        · next same =>
            have same : letter = sep := by simpa using same
            rw [List.nil_append, same]
            apply after
            intro next
            obtain ⟨other, more⟩ := List.head?_eq_some_iff.mp next
            rw [same, more] at single
            have pair := (List.isChain_cons_cons.mp single).1
            simp at pair
        · rw [if_pos (by simp), alone, List.nil_append]
      · intro different
        have other : letter ≠ sep := by simpa using different
        rw [subRuns, if_neg (by simpa using other), if_pos (by simp), alone]
        rfl

section Squeeze

variable (outside : isWord sep = false)

include outside

theorem squeeze_single (inside : Bool) (text : List Letter) :
    Single sep (squeeze isWord sep inside text) ∧
      (inside → (squeeze isWord sep inside text).head? ≠ some sep) := by
  induction text generalizing inside with
  | nil => exact ⟨List.isChain_nil, by simp [squeeze]⟩
  | cons letter rest ih =>
      cases word : isWord letter with
      | true =>
          have other : letter ≠ sep := by
            rintro rfl
            rw [word] at outside
            cases outside
          obtain ⟨single, -⟩ := ih false
          simp only [squeeze, word, if_true]
          refine ⟨List.isChain_cons.mpr ⟨fun _ _ => .inl other, single⟩, fun _ => ?_⟩
          simpa using other
      | false =>
          obtain ⟨single, first⟩ := ih true
          simp only [squeeze, word, Bool.false_eq_true, if_false]
          cases inside with
          | true => exact ⟨single, fun _ => first rfl⟩
          | false =>
              refine ⟨List.isChain_cons.mpr ⟨fun next here => .inr ?_, single⟩, by simp⟩
              rintro rfl
              exact first rfl here

/-- Trimmed at the end only: the first word, and each later one after its separator. -/
theorem rdropWhile_squeeze [DecidableEq Letter] (text : List Letter) :
    (squeeze isWord sep false text).rdropWhile (· = sep) =
      (spell isWord text).1 ++ (spell isWord text).2.flatMap (sep :: ·) := by
  induction text with
  | nil => rfl
  | cons letter rest ih =>
      cases word : isWord letter with
      | true =>
          have other : letter ≠ sep := by
            rintro rfl
            rw [word] at outside
            cases outside
          simp only [squeeze, spell, word, if_true]
          rw [rdropWhile_cons, ih]
          split
          · next empty => simp [other, empty]
          · rfl
      | false =>
          simp only [squeeze, spell, word, Bool.false_eq_true, if_false, List.nil_append]
          cases rest with
          | nil => simp [squeeze, spell, List.rdropWhile]
          | cons next tail =>
              cases begins : isWord next with
              | true =>
                  -- A word begins: its separator stays.
                  have same : squeeze isWord sep true (next :: tail) =
                      squeeze isWord sep false (next :: tail) := by
                    simp only [squeeze, begins, if_true]
                  have nonempty : (spell isWord (next :: tail)).1 ≠ [] := by
                    simp [spell, begins]
                  rw [same, rdropWhile_cons, ih, if_neg (by simp [nonempty]), if_neg nonempty,
                    List.flatMap_cons]
                  rfl
              | false =>
                  -- The run goes on: one separator for all of it.
                  have same : sep :: squeeze isWord sep true (next :: tail) =
                      squeeze isWord sep false (next :: tail) := by
                    simp only [squeeze, begins, Bool.false_eq_true, if_false, if_true]
                  have empty : (spell isWord (next :: tail)).1 = [] := by
                    simp [spell, begins]
                  rw [same, ih, if_pos empty, empty, List.nil_append]

end Squeeze

theorem spell_words (isWord : Letter → Bool) (text : List Letter) : (∀ letter ∈ (spell isWord text).1, isWord letter) ∧
    ∀ word ∈ (spell isWord text).2, word ≠ [] ∧ ∀ letter ∈ word, isWord letter := by
  induction text with
  | nil => simp [spell]
  | cons letter rest ih =>
      obtain ⟨first, later⟩ := ih
      cases word : isWord letter with
      | true =>
          simp only [spell, word, if_true]
          exact ⟨List.forall_mem_cons.mpr ⟨word, first⟩, later⟩
      | false =>
          simp only [spell, word, Bool.false_eq_true, if_false]
          refine ⟨by simp, ?_⟩
          split
          · exact later
          · next nonempty => exact List.forall_mem_cons.mpr ⟨⟨nonempty, first⟩, later⟩

theorem words_spec {text word : List Letter} (here : word ∈ words isWord text) :
    word ≠ [] ∧ ∀ letter ∈ word, isWord letter := by
  obtain ⟨first, later⟩ := spell_words isWord text
  simp only [words] at here
  split at here
  · exact later word here
  · next nonempty =>
      obtain rfl | there := List.mem_cons.mp here
      · exact ⟨nonempty, first⟩
      · exact later word there

theorem mem_join {list : List (List Letter)} {letter : Letter} (here : letter ∈ join sep list) :
    letter = sep ∨ ∃ word ∈ list, letter ∈ word := by
  cases list with
  | nil => cases here
  | cons word later =>
      simp only [join, List.mem_append, List.mem_flatMap, List.mem_cons] at here
      obtain inside | ⟨other, among, rfl | inside⟩ := here
      · exact .inr ⟨word, List.mem_cons_self, inside⟩
      · exact .inl rfl
      · exact .inr ⟨other, List.mem_cons_of_mem _ among, inside⟩

/-- Two letters are the join of one word of two letters only. -/
theorem join_length_two (sep : Letter) {list : List (List Letter)} (nonempty : ∀ word ∈ list, word ≠ []) :
    (join sep list).length = 2 ↔ ∃ word, list = [word] ∧ word.length = 2 := by
  match list with
  | [] => simp [join]
  | [word] => simp [join]
  | first :: second :: later =>
      have one := List.length_pos_iff.mpr (nonempty first List.mem_cons_self)
      have two := List.length_pos_iff.mpr
        (nonempty second (List.mem_cons_of_mem _ List.mem_cons_self))
      have long : (join sep (first :: second :: later)).length ≠ 2 := by
        simp only [join, List.flatMap_cons, List.length_append, List.length_cons]
        omega
      simp [long]

section Ends

theorem rdropWhile_append (wanted : Letter → Bool) (text : List Letter) :
    ∃ rest, text.rdropWhile wanted ++ rest = text :=
  List.rdropWhile_prefix wanted text

variable [DecidableEq Letter]

theorem trim_head (sep : Letter) (text : List Letter) : (trim sep text).head? ≠ some sep := by
  intro first
  rw [trim, ← dropWhile_rdropWhile] at first
  have kept := List.head?_dropWhile_not (fun letter => decide (letter = sep))
    (text.rdropWhile fun letter => letter = sep)
  rw [first] at kept
  simp at kept

theorem trim_last (sep : Letter) (text : List Letter) : (trim sep text).getLast? ≠ some sep := by
  intro last
  obtain ⟨front, ended⟩ := List.getLast?_eq_some_iff.mp last
  have kept := List.rdropWhile_last_not (fun letter => decide (letter = sep))
    (text.dropWhile fun letter => letter = sep) (by
      rw [trim] at ended
      rw [ended]
      simp)
  simp only [trim] at ended
  simp [ended] at kept

theorem single_trim {text : List Letter} (single : Single sep text) : Single sep (trim sep text) := by
  have front := single.suffix (List.dropWhile_suffix fun letter => letter = sep)
  obtain ⟨rest, whole⟩ := rdropWhile_append (fun letter => letter = sep)
    (text.dropWhile fun letter => letter = sep)
  rw [← whole] at front
  exact (List.isChain_append.mp front).1

theorem trim_of_head {text : List Letter} (begins : text.head? ≠ some sep) :
    trim sep text = text.rdropWhile (· = sep) := by
  cases text with
  | nil => rfl
  | cons letter rest =>
      have other : letter ≠ sep := by simpa using begins
      rw [trim, List.dropWhile_cons_of_neg (by simpa using other)]

theorem trim_eq_self {text : List Letter} (begins : text.head? ≠ some sep)
    (ends : text.getLast? ≠ some sep) : trim sep text = text := by
  rw [trim_of_head begins]
  cases text using List.reverseRecOn with
  | nil => rfl
  | append_singleton front last =>
      have other : last ≠ sep := by simpa using ends
      exact List.rdropWhile_concat_neg _ _ _ (by simpa using other)

theorem trim_sublist (text : List Letter) : (trim sep text).Sublist text := by
  obtain ⟨rest, whole⟩ := rdropWhile_append (fun letter => letter = sep)
    (text.dropWhile fun letter => letter = sep)
  have front : (trim sep text).Sublist (text.dropWhile fun letter => letter = sep) := by
    rw [← whole]
    exact List.sublist_append_left _ rest
  exact front.trans (List.dropWhile_sublist _)

/-- Cut within the text, the trimmed text has lost at most one separator. -/
theorem length_trim_take {text : List Letter} (single : Single sep text)
    (begins : text.head? ≠ some sep) {count : Nat} (long : count ≤ text.length) :
    count - 1 ≤ (trim sep (text.take count)).length := by
  have length : (text.take count).length = count := List.length_take_of_le long
  have single := List.IsChain.take single count
  have begins : (text.take count).head? ≠ some sep := by
    rw [List.head?_take]
    split
    · simp
    · exact begins
  rw [trim_of_head begins]
  generalize text.take count = cut at length single begins ⊢
  cases cut using List.reverseRecOn with
  | nil =>
      rw [← length]
      exact Nat.zero_le _
  | append_singleton front last =>
      by_cases last_sep : last = sep
      · -- The last of the cut is a separator, so the one before it is not.
        rw [List.rdropWhile_concat_pos _ _ _ (by simpa using last_sep)]
        cases front using List.reverseRecOn with
        | nil => simp [last_sep] at begins
        | append_singleton front prev =>
            have other : prev ≠ sep := by
              rw [List.append_assoc] at single
              have pair := (List.isChain_append.mp single).2.1
              simpa [last_sep] using pair
            rw [List.rdropWhile_concat_neg _ _ _ (by simpa using other)]
            simp at length ⊢
            omega
      · rw [List.rdropWhile_concat_neg _ _ _ (by simpa using last_sep), length]
        exact Nat.sub_le ..

/-- What is left of a text is its words joined. -/
theorem trim_squeeze (outside : isWord sep = false) (text : List Letter) :
    trim sep (squeeze isWord sep false text) = join sep (words isWord text) := by
  obtain ⟨first, later⟩ := spell_words isWord text
  have apart {letter : Letter} (word : isWord letter) : letter ≠ sep := by
    rintro rfl
    rw [word] at outside
    cases outside
  have parts : words isWord text = if (spell isWord text).1 = [] then (spell isWord text).2
      else (spell isWord text).1 :: (spell isWord text).2 := rfl
  rw [trim, ← dropWhile_rdropWhile, rdropWhile_squeeze outside, parts]
  cases begun : (spell isWord text).1 with
  | cons letter word =>
      have other : letter ≠ sep := apart (first letter (by rw [begun]; exact List.mem_cons_self))
      simp [join, other]
  | nil =>
      rw [List.nil_append, if_pos rfl]
      cases rest : (spell isWord text).2 with
      | nil => rfl
      | cons word more =>
          obtain ⟨nonempty, letters⟩ := later word (by rw [rest]; exact List.mem_cons_self)
          obtain ⟨letter, tail, rfl⟩ := List.exists_cons_of_ne_nil nonempty
          have other : letter ≠ sep := apart (letters letter List.mem_cons_self)
          simp [join, other]

end Ends

end Words
