import Diverge.Text.Strings

/-! The words of a text: what stands between white space, the first of them, and trimmed texts. -/
namespace Diverge.Text

lemma splitOnP_space_cons {c : Char} (hc : isSpace c = true) (cs : List Char) :
    (c :: cs).splitOnP isSpace = [] :: cs.splitOnP isSpace :=
  List.splitOnP_append_cons_of_forall_mem (fun (_ : Char) h => absurd h List.not_mem_nil) c hc cs

lemma fields_space_append {gap : List Char} (hgap : ∀ c ∈ gap, isSpace c = true) (cs : List Char) :
    fields (String.ofList (gap ++ cs)) = fields (String.ofList cs) := by
  induction gap with
  | nil => rfl
  | cons c gap ih =>
    rw [← ih fun d hd => hgap d (List.mem_cons_of_mem c hd)]
    simp only [fields,String.toList_ofList,List.cons_append,splitOnP_space_cons (hgap c List.mem_cons_self)]
    rfl

lemma fields_word_append {word tail : List Char} (hne : word ≠ []) (hword : ∀ c ∈ word, isSpace c = false)
    (htail : ∀ c ∈ tail.head?, isSpace c = true) :
    fields (String.ofList (word ++ tail)) = String.ofList word :: fields (String.ofList tail) := by
  cases tail with
  | nil =>
    simp only [fields,String.toList_ofList,List.append_nil,List.splitOnP_eq_singleton hword]
    simp [hne]
  | cons c tail =>
    have hc : isSpace c = true := htail c rfl
    simp only [fields,String.toList_ofList,List.splitOnP_append_cons_of_forall_mem hword c hc tail,
      splitOnP_space_cons hc]
    simp [hne]

def EndsInWord (cs : List Char) : Prop := ∀ c ∈ cs.getLast?, isSpace c = false

lemma EndsInWord.of_append {xs ys : List Char} (h : EndsInWord (xs ++ ys)) : EndsInWord ys := by
  intro c hc
  refine h c ?_
  rw [List.getLast?_append,Option.mem_def.mp hc]
  rfl

lemma head?_dropWhile_space (cs : List Char) : ∀ c ∈ (cs.dropWhile isSpace).head?, isSpace c = false := by
  intro c hc
  have hnot := List.head?_dropWhile_not isSpace cs
  rw [Option.mem_def.mp hc] at hnot
  simpa using hnot

lemma trimSpace_ends (s : String) : EndsInWord (trimSpace s).toList := by
  intro c hc
  rw [trimSpace,String.toList_ofList,List.getLast?_reverse] at hc
  exact head?_dropWhile_space _ c hc

lemma trimSpace_of_ends {s : String} (h : EndsInWord s.toList) :
    (trimSpace s).toList = s.toList.dropWhile isSpace := by
  have hrest : EndsInWord (s.toList.dropWhile isSpace) := by
    obtain ⟨front,hfront⟩ := List.dropWhile_suffix (l := s.toList) isSpace
    exact EndsInWord.of_append (hfront ▸ h)
  rw [trimSpace,String.toList_ofList]
  generalize s.toList.dropWhile isSpace = cs at hrest
  have hkeep : cs.reverse.dropWhile isSpace = cs.reverse := by
    cases hrev : cs.reverse with
    | nil => rfl
    | cons c ds =>
      refine List.dropWhile_cons_of_neg ?_
      rw [hrest c (by rw [← List.head?_reverse,hrev]; rfl)]
      exact Bool.false_ne_true
  rw [hkeep,List.reverse_reverse]

lemma first_word (cs : List Char) : ∃ gap word tail, cs = gap ++ (word ++ tail) ∧ (∀ c ∈ gap, isSpace c = true) ∧
    (∀ c ∈ word, isSpace c = false) ∧ (∀ c ∈ tail.head?, isSpace c = true) ∧
    cs.dropWhile isSpace = word ++ tail ∧ (word = [] → tail = []) := by
  refine ⟨cs.takeWhile isSpace,(cs.dropWhile isSpace).takeWhile (!isSpace ·),
    (cs.dropWhile isSpace).dropWhile (!isSpace ·),?_,?_,?_,?_,?_,?_⟩
  · rw [List.takeWhile_append_dropWhile,List.takeWhile_append_dropWhile]
  · exact fun c hc => List.mem_takeWhile_imp hc
  · exact fun c hc => by simpa using List.mem_takeWhile_imp hc
  · intro c hc
    have hnot := List.head?_dropWhile_not (!isSpace ·) (cs.dropWhile isSpace)
    rw [Option.mem_def.mp hc] at hnot
    simpa using hnot
  · rw [List.takeWhile_append_dropWhile]
  · intro hnil
    cases hrest : cs.dropWhile isSpace with
    | nil => rfl
    | cons c ds =>
      have hc := head?_dropWhile_space cs c (by rw [hrest]; rfl)
      rw [hrest,List.takeWhile_cons,hc] at hnil
      simp at hnil

end Diverge.Text
