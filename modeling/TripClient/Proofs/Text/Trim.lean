import Mathlib.Data.List.TakeWhile
import TripClient.Text.Blank

/-!
# Trimmed texts

A text that is trimmed is empty only if it holds nothing but blanks (`trimChars_eq_nil_iff`). Blanks around a
text are dropped, and nothing is dropped of what stands before a character that is no blank
(`trimChars_around`).
-/

namespace TripClient.Text

/-- Of nothing but blanks nothing is left. -/
theorem trimChars_eq_nil_iff {cs : List Char} : trimChars cs = [] ↔ ∀ c ∈ cs, isBlank c := by
  rw [trimChars, trimEnd, List.reverse_eq_nil_iff, List.dropWhile_eq_nil_iff]
  simp only [List.mem_reverse]
  refine ⟨fun h => List.dropWhile_eq_nil_iff.1 ?_, fun h c hc => h c ((List.dropWhile_suffix _).subset hc)⟩
  -- What is left at the start does not begin with a blank, so it is empty if it holds nothing else.
  cases hcs : trimStart cs with
  | nil => exact hcs
  | cons c rest =>
    have hc : isBlank c := h c (hcs ▸ List.mem_cons_self)
    have hhead : (trimStart cs).head? = some c := by rw [hcs]; rfl
    exact absurd hc (Bool.eq_false_iff.1 (isBlank_of_head_trimStart hhead))

/-- A text is empty when it is trimmed if and only if it is blank. -/
theorem trim_eq_empty_iff {s : String} : trim s = "" ↔ isBlankText s := by
  rw [trim, isBlankText, List.all_eq_true, ← trimChars_eq_nil_iff, ← String.toList_inj, String.toList_ofList]
  rfl

/-- A trimmed text does not begin with a blank. -/
theorem isBlank_of_head_trim {s : String} {c : Char} (h : (trim s).toList.head? = some c) :
    isBlank c = false := by
  rw [trim, String.toList_ofList] at h
  exact isBlank_of_head_trimChars h

/-- Nor does it close with one. -/
theorem isBlank_of_getLast_trim {s : String} {c : Char} (h : (trim s).toList.getLast? = some c) :
    isBlank c = false := by
  rw [trim, String.toList_ofList] at h
  exact isBlank_of_getLast_trimChars h

/-- Trimming twice is trimming once. -/
theorem trim_trim (s : String) : trim (trim s) = trim s := by
  rw [trim, trim, String.toList_ofList, trimChars_trimChars]

/-- What is dropped from the end of a text does not reach beyond a character that is kept. -/
theorem exists_dropEnd (drops : Char → Bool) {front tail after : List Char}
    (hfront : ∀ c ∈ front.getLast?, ¬ drops c) (htail : ∀ c ∈ tail.head?, ¬ drops c)
    (hafter : ∀ c ∈ after, drops c) :
    ∃ tail', ((front ++ tail ++ after).reverse.dropWhile drops).reverse = front ++ tail' ∧
      tail'.head? = tail.head? ∧ tail' <+: tail := by
  have hdrop : (front ++ tail ++ after).reverse.dropWhile drops =
      (tail.reverse ++ front.reverse).dropWhile drops := by
    rw [List.reverse_append, List.reverse_append,
      List.dropWhile_append_of_pos fun c hc => hafter c (List.mem_reverse.1 hc)]
  rw [hdrop]
  cases tail with
  | nil =>
    refine ⟨[], ?_, rfl, List.nil_prefix⟩
    have hkeep : front.reverse.dropWhile drops = front.reverse := by
      cases hrev : front.reverse with
      | nil => rfl
      | cons c rest =>
        refine List.dropWhile_cons_of_neg (hfront c ?_)
        rw [← List.head?_reverse, hrev]
        rfl
    rw [List.reverse_nil, List.nil_append, hkeep, List.reverse_reverse, List.append_nil]
  | cons c tail =>
    have hc : ¬ drops c := htail c rfl
    refine ⟨c :: (tail.reverse.dropWhile drops).reverse, ?_, rfl, ?_⟩
    · have hkeep : ((c :: tail).reverse ++ front.reverse).dropWhile drops =
          tail.reverse.dropWhile drops ++ c :: front.reverse := by
        rw [List.reverse_cons, List.append_assoc, List.singleton_append, List.dropWhile_append]
        split
        · next hall =>
          rw [List.dropWhile_cons_of_neg hc, List.isEmpty_iff.1 hall, List.nil_append]
        · rfl
      rw [hkeep, List.reverse_append, List.reverse_cons, List.reverse_reverse, List.append_assoc]
      rfl
    · have hprefix := List.reverse_prefix.2 (List.dropWhile_suffix (l := tail.reverse) drops)
      rw [List.reverse_reverse] at hprefix
      exact List.cons_prefix_cons.2 ⟨rfl, hprefix⟩

/-- Blanks around a text are dropped, and of the text only what stands behind its last character that is no
blank. -/
theorem trimChars_around {before front tail after : List Char} (hbefore : ∀ c ∈ before, isBlank c)
    (hafter : ∀ c ∈ after, isBlank c) (hhead : ∀ c ∈ (front ++ tail).head?, isBlank c = false)
    (hlast : ∀ c ∈ front.getLast?, isBlank c = false) (htail : ∀ c ∈ tail.head?, isBlank c = false) :
    ∃ tail', trimChars (before ++ front ++ tail ++ after) = front ++ tail' ∧ tail'.head? = tail.head? ∧
      tail' <+: tail := by
  obtain ⟨tail', hdrop, hhead', hprefix⟩ := exists_dropEnd isBlank
    (fun c (hc : c ∈ front.getLast?) => Bool.eq_false_iff.1 (hlast c hc))
    (fun c (hc : c ∈ tail.head?) => Bool.eq_false_iff.1 (htail c hc)) hafter
  refine ⟨tail', ?_, hhead', hprefix⟩
  have hstart : trimStart (before ++ front ++ tail ++ after) = trimStart (front ++ tail ++ after) := by
    rw [List.append_assoc, List.append_assoc, trimStart, List.dropWhile_append_of_pos hbefore, trimStart,
      List.append_assoc]
  rw [trimChars, hstart, ← hdrop]
  cases hparts : front ++ tail with
  | nil =>
    -- Nothing stands between the blanks.
    have hempty : trimStart after = [] := List.dropWhile_eq_nil_iff.2 hafter
    have hempty' : trimEnd after = [] := by
      rw [trimEnd, List.reverse_eq_nil_iff, List.dropWhile_eq_nil_iff]
      exact fun c hc => hafter c (List.mem_reverse.1 hc)
    rw [List.nil_append, hempty]
    exact hempty'.symm
  | cons c rest =>
    refine congrArg trimEnd (trimStart_eq_self _ fun d hd => hhead d ?_)
    rw [hparts]
    exact hd

/-- A text without blanks at its ends is what is left of it with blanks around. -/
theorem trim_around {before after : List Char} {s : String} (hbefore : ∀ c ∈ before, isBlank c)
    (hafter : ∀ c ∈ after, isBlank c) (hs : trim s = s) :
    trim (String.ofList (before ++ s.toList ++ after)) = s := by
  have hhead : ∀ c ∈ s.toList.head?, isBlank c = false := fun c hc =>
    isBlank_of_head_trim (hs.symm ▸ hc)
  have hlast : ∀ c ∈ s.toList.getLast?, isBlank c = false := fun c hc =>
    isBlank_of_getLast_trim (hs.symm ▸ hc)
  have hnone : ∀ c ∈ ([] : List Char).head?, isBlank c = false := fun c hc =>
    absurd hc (Option.not_mem_none c)
  obtain ⟨tail, hparts, -, hprefix⟩ := trimChars_around hbefore hafter (by rwa [List.append_nil]) hlast hnone
  rw [List.prefix_nil.1 hprefix, List.append_nil, List.append_nil] at hparts
  rw [trim, String.toList_ofList, hparts, String.ofList_toList]

/-- A text without blanks is not changed. -/
theorem trim_eq_self {s : String} (h : ∀ c ∈ s.toList, isBlank c = false) : trim s = s := by
  have hstart : trimStart s.toList = s.toList :=
    trimStart_eq_self s.toList fun c hc => h c (List.mem_of_mem_head? hc)
  have hend : trimEnd s.toList = s.toList :=
    trimEnd_eq_self s.toList fun c hc => h c (List.mem_of_mem_getLast? hc)
  rw [trim, trimChars, hstart, hend, String.ofList_toList]

end TripClient.Text
