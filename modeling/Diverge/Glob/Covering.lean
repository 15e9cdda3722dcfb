import Diverge.Glob.Pattern

/-! Language inclusion of patterns, term by term. One pattern covers another when every single
character the second stands for is taken by a character, or by a `*`, of the first, and every `*` of
the second by a `*` of the first. Covering is sound for inclusion, while matching the text of a
pattern is not: it is covering only where the text has no classes and no escapes and the covering
pattern consists of literal characters and `*`. -/
namespace Diverge.Glob

def Term.SlashFree : Term → Prop
  | .star => True
  | .one a => a.admits '/' = false

inductive Covers : Pattern → Pattern → Prop
  | nil : Covers [] []
  | one {a b : Atom} {p q : Pattern} (sub : ∀ c, b.admits c = true → a.admits c = true)
      (rest : Covers p q) : Covers (.one a :: p) (.one b :: q)
  | skip {p q : Pattern} (rest : Covers p q) : Covers (.star :: p) q
  | take {t : Term} {p q : Pattern} (free : t.SlashFree) (rest : Covers (.star :: p) q) :
      Covers (.star :: p) (t :: q)

variable {c : Char} {p : Pattern}

lemma ne_slash_of_admits {a : Atom} (h : a.admits '/' = false) (hc : a.admits c = true) : c ≠ '/' := by
  rintro rfl
  rw [h] at hc
  contradiction

lemma matchTerms_star_append {u name : List Char} (hu : ∀ c ∈ u, c ≠ '/')
    (h : matchTerms (.star :: p) name = true) : matchTerms (.star :: p) (u ++ name) = true := by
  obtain ⟨v,w,rfl,hv,hw⟩ := (matchTerms_star p name).mp h
  refine (matchTerms_star p _).mpr ⟨u ++ v,w,(List.append_assoc u v w).symm,?_,hw⟩
  intro c hc
  rcases List.mem_append.mp hc with hc | hc
  · exact hu c hc
  · exact hv c hc

/-- Every name of a covered pattern is a name of the covering one. -/
theorem Covers.sound {p q : Pattern} (h : Covers p q) :
    ∀ name, matchTerms q name = true → matchTerms p name = true := by
  induction h with
  | nil => exact fun name hn => hn
  | @one a b p q sub rest ih =>
    intro name hn
    obtain ⟨c,cs,rfl,hc,hcs⟩ := (matchTerms_one b q name).mp hn
    exact (matchTerms_one a p _).mpr ⟨c,cs,rfl,sub c hc,ih cs hcs⟩
  | @skip p q rest ih =>
    intro name hn
    exact (matchTerms_star p name).mpr ⟨[],name,rfl,by simp,ih name hn⟩
  | @take t p q free rest ih =>
    intro name hn
    cases t with
    | star =>
      obtain ⟨u,v,rfl,hu,hv⟩ := (matchTerms_star q name).mp hn
      exact matchTerms_star_append hu (ih v hv)
    | one b =>
      obtain ⟨c,cs,rfl,hc,hcs⟩ := (matchTerms_one b q name).mp hn
      have hcu : ∀ d ∈ [c], d ≠ '/' := by
        intro d hd
        rw [List.mem_singleton.mp hd]
        exact ne_slash_of_admits free hc
      exact matchTerms_star_append hcu (ih cs hcs)

lemma Covers.star_append (q r : Pattern) (hq : ∀ t ∈ q, t.SlashFree)
    (h : Covers (.star :: p) r) : Covers (.star :: p) (q ++ r) := by
  induction q with
  | nil => exact h
  | cons t q ih =>
    exact .take (hq t (by simp)) (ih (fun u hu => hq u (by simp [hu])))

lemma glyph_slashFree (h : c ≠ '/') : (glyph c).SlashFree := by
  unfold glyph
  split_ifs
  · trivial
  · rfl
  · simpa [Term.SlashFree,Atom.admits] using h.symm

/-- Matching the text of a pattern without classes and escapes is covering for literal characters
and `*`. -/
theorem Covers.of_text {wide narrow : List Char} (hw : '?' ∉ wide)
    (h : matchTerms (wide.map glyph) narrow = true) :
    Covers (wide.map glyph) (narrow.map glyph) := by
  induction wide generalizing narrow with
  | nil =>
    rw [(matchTerms_nil narrow).mp h]
    exact .nil
  | cons c wide ih =>
    have hq : '?' ∉ wide := fun hm => hw (by simp [hm])
    by_cases hs : c = '*'
    · subst hs
      obtain ⟨u,v,rfl,hu,hv⟩ := (matchTerms_star (wide.map glyph) narrow).mp h
      rw [List.map_append]
      refine Covers.star_append _ _ ?_ (.skip (ih hq hv))
      intro t ht
      obtain ⟨d,hd,rfl⟩ := List.mem_map.mp ht
      exact glyph_slashFree (hu d hd)
    · have hc : glyph c = .one (.char c) := glyph_of_plain hs (fun he => hw (by simp [he]))
      rw [List.map_cons,hc] at h ⊢
      obtain ⟨d,cs,rfl,hd,hcs⟩ := (matchTerms_one _ _ _).mp h
      have hdc : d = c := by simpa [Atom.admits] using hd
      rw [List.map_cons,hdc,hc]
      exact .one (fun e he => he) (ih hq hcs)

lemma matchTerms_slashFree (hp : ∀ t ∈ p, t.SlashFree) :
    ∀ name, matchTerms p name = true → ∀ c ∈ name, c ≠ '/' := by
  induction p with
  | nil =>
    intro name hn
    simp [(matchTerms_nil name).mp hn]
  | cons t p ih =>
    have hp' := ih (fun u hu => hp u (by simp [hu]))
    have ht := hp t (by simp)
    intro name hn
    cases t with
    | star =>
      obtain ⟨u,v,rfl,hu,hv⟩ := (matchTerms_star p name).mp hn
      intro c hc
      rcases List.mem_append.mp hc with hc | hc
      · exact hu c hc
      · exact hp' v hv c hc
    | one a =>
      obtain ⟨d,cs,rfl,hd,hcs⟩ := (matchTerms_one a p name).mp hn
      intro c hc
      rcases List.mem_cons.mp hc with rfl | hc
      · exact ne_slash_of_admits ht hd
      · exact hp' cs hcs c hc

end Diverge.Glob
