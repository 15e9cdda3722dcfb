import Diverge.Text.Strings

/-! Runs of a character made one character: by a single pass, and by the loop that replaces two by
one for as long as the text has two in a row. -/
namespace Diverge.Text

/-- Put a character before a text without a run of `d`. -/
def consRun (d c : Char) (rest : List Char) : List Char :=
  if c = d ∧ rest.head? = some d then rest else c :: rest

/-- Runs of `d` become one. -/
def collapseRuns (d : Char) (cs : List Char) : List Char := cs.foldr (consRun d) []

/-- The text does not have `d` twice in a row. -/
def Collapsed (d : Char) (cs : List Char) : Prop := ¬[d,d] <:+: cs

instance (d : Char) (cs : List Char) : Decidable (Collapsed d cs) := inferInstanceAs (Decidable (¬_))

/-- `for strings.Contains(s, "dd") { s = strings.ReplaceAll(s, "dd", "d") }`; every turn makes the
text shorter, and the number bounds the turns. -/
def squeezeFrom (d : Char) : ℕ → String → String
  | 0,s => s
  | n+1,s =>
    if contains s (String.ofList [d,d]) then
      squeezeFrom d n (replaceAll s (String.ofList [d,d]) (String.ofList [d]))
    else s

def squeeze (d : Char) (s : String) : String := squeezeFrom d s.toList.length s

section
variable {d : Char}

@[simp] lemma collapseRuns_nil : collapseRuns d [] = [] := rfl

@[simp] lemma collapseRuns_cons (c : Char) (cs : List Char) :
    collapseRuns d (c :: cs) = consRun d c (collapseRuns d cs) := rfl

lemma consRun_head? (c : Char) (cs : List Char) : (consRun d c cs).head? = some c := by
  unfold consRun
  split_ifs with h
  · rw [h.1,h.2]
  · rfl

lemma consRun_twice (cs : List Char) : consRun d d (consRun d d cs) = consRun d d cs := by
  rw [consRun,if_pos ⟨rfl,consRun_head? d cs⟩]

lemma collapsed_nil : Collapsed d [] := by simp [Collapsed]

variable {c : Char} {cs : List Char}

lemma collapsed_cons_iff : Collapsed d (c :: cs) ↔ ¬(c = d ∧ cs.head? = some d) ∧ Collapsed d cs := by
  unfold Collapsed
  rw [List.infix_cons_iff,List.cons_prefix_cons,not_or]
  refine and_congr_left fun _ => not_congr (and_congr eq_comm ?_)
  cases cs with
  | nil => simp
  | cons e cs => simp [List.cons_prefix_cons,eq_comm]

lemma collapsed_collapseRuns (cs : List Char) : Collapsed d (collapseRuns d cs) := by
  induction cs with
  | nil => exact collapsed_nil
  | cons c cs ih =>
    rw [collapseRuns_cons,consRun]
    split_ifs with h
    · exact ih
    · exact collapsed_cons_iff.mpr ⟨h,ih⟩

lemma collapseRuns_of_collapsed (h : Collapsed d cs) : collapseRuns d cs = cs := by
  induction cs with
  | nil => rfl
  | cons c cs ih =>
    rw [collapsed_cons_iff] at h
    rw [collapseRuns_cons,ih h.2,consRun,if_neg h.1]

lemma Collapsed.of_part {cs ds : List Char} (h : Collapsed d cs) (hi : ds <:+: cs) : Collapsed d ds :=
  fun hd => h (hd.trans hi)

lemma replaceFrom_pair (cs : List Char) :
    replaceFrom [d,d] [d] 0 (d :: d :: cs) = d :: replaceFrom [d,d] [d] 0 cs := by
  rw [replaceFrom,if_pos (by simp)]
  rfl

lemma replaceFrom_other (h : ¬(c = d ∧ cs.head? = some d)) :
    replaceFrom [d,d] [d] 0 (c :: cs) = c :: replaceFrom [d,d] [d] 0 cs := by
  rw [replaceFrom,if_neg]
  intro hp
  rw [List.isPrefixOf_iff_prefix,List.cons_prefix_cons] at hp
  refine h ⟨hp.1.symm,?_⟩
  cases cs with
  | nil => simp at hp
  | cons e cs => simpa [List.cons_prefix_cons,eq_comm] using hp.2

lemma replaceFrom_spec (n : ℕ) (cs : List Char) (hn : cs.length ≤ n) :
    collapseRuns d (replaceFrom [d,d] [d] 0 cs) = collapseRuns d cs ∧
      (replaceFrom [d,d] [d] 0 cs).length ≤ cs.length ∧
      (¬Collapsed d cs → (replaceFrom [d,d] [d] 0 cs).length < cs.length) := by
  induction n generalizing cs with
  | zero =>
    have hnil : cs = [] := List.length_eq_zero_iff.mp (by omega)
    subst hnil
    exact ⟨rfl,le_refl _,fun h => absurd collapsed_nil h⟩
  | succ n ih =>
    cases cs with
    | nil => exact ⟨rfl,le_refl _,fun h => absurd collapsed_nil h⟩
    | cons c cs =>
      rw [List.length_cons] at hn
      by_cases hpair : c = d ∧ cs.head? = some d
      · obtain ⟨rfl,hhead⟩ := hpair
        obtain ⟨rest,rfl⟩ : ∃ rest, cs = c :: rest := by
          cases cs with
          | nil => cases hhead
          | cons e rest => exact ⟨rest,by rw [Option.some.inj hhead]⟩
        rw [List.length_cons] at hn
        obtain ⟨hcollapse,hlength,-⟩ := ih rest (by omega)
        rw [replaceFrom_pair]
        refine ⟨?_,?_,fun _ => ?_⟩
        · rw [collapseRuns_cons,hcollapse,collapseRuns_cons,collapseRuns_cons,consRun_twice]
        · simp only [List.length_cons]
          omega
        · simp only [List.length_cons]
          omega
      · obtain ⟨hcollapse,hlength,hless⟩ := ih cs (by omega)
        rw [replaceFrom_other hpair]
        refine ⟨?_,?_,fun hnot => ?_⟩
        · rw [collapseRuns_cons,hcollapse,collapseRuns_cons]
        · simpa using hlength
        · rw [collapsed_cons_iff,not_and] at hnot
          simpa using hless (hnot hpair)

theorem squeeze_toList (s : String) : (squeeze d s).toList = collapseRuns d s.toList := by
  have hloop : ∀ n (s : String), s.toList.length ≤ n →
      (squeezeFrom d n s).toList = collapseRuns d s.toList := by
    intro n
    induction n with
    | zero =>
      intro s hs
      have hnil : s.toList = [] := List.length_eq_zero_iff.mp (by omega)
      rw [squeezeFrom,hnil,collapseRuns_nil]
    | succ n ih =>
      intro s hs
      rw [squeezeFrom]
      obtain ⟨hcollapse,-,hless⟩ := replaceFrom_spec (d := d) _ s.toList (le_refl _)
      split_ifs with hc
      · rw [contains_iff,String.toList_ofList] at hc
        have hshort := hless fun h => h hc
        have htext : (replaceAll s (String.ofList [d,d]) (String.ofList [d])).toList =
            replaceFrom [d,d] [d] 0 s.toList := by simp [replaceAll]
        rw [ih _ (by rw [htext]; omega),htext,hcollapse]
      · rw [contains_iff,String.toList_ofList] at hc
        exact (collapseRuns_of_collapsed hc).symm
  exact hloop _ s (le_refl _)

end

example : squeeze '-' "a---b--c-" = "a-b-c-" := by decide

end Diverge.Text
