import Diverge.Replay.Differences

/-! What it says of two JSON values that their comparison finds no difference, and none that breaks. -/
namespace Diverge.Replay
open Text

section

mutual
/-- The same value: items by their index, members by their key. -/
def Json.Same : Json → Json → Prop
  | .null,p => p = .null
  | .bool b,p => p = .bool b
  | .number text,p => p = .number text
  | .string s,p => p = .string s
  | .array base,p => ∃ items, p = .array items ∧ List.Forall₂ (fun same v => same v) base.sames items.toList
  | .object base,p => ∃ members, p = .object members ∧
      ∀ k, Option.Rel (fun same v => same v) (base.sames.lookup k) (members.toList.lookup k)

def Items.sames : Items → List (Json → Prop)
  | .nil => []
  | .cons head tail => head.Same :: tail.sames

def Members.sames : Members → List (String × (Json → Prop))
  | .nil => []
  | .cons key value rest => (key,value.Same) :: rest.sames
end

lemma Items.sames_eq (base : Items) : base.sames = base.toList.map Json.Same := by
  cases base with
  | nil => rfl
  | cons head tail => rw [Items.sames,tail.sames_eq]; rfl

lemma Members.sames_eq (base : Members) : base.sames = base.toList.map (Prod.map id Json.Same) := by
  cases base with
  | nil => rfl
  | cons key value rest => rw [Members.sames,rest.sames_eq]; rfl

variable {δ : Type} {isPrint : Char → Bool} {opts : Strictness} {R : Reporter δ}

lemma Items.walks_eq (base : Items) : base.walks isPrint opts R = base.toList.map (Json.walk isPrint opts R) := by
  cases base with
  | nil => rfl
  | cons head tail => rw [Items.walks,tail.walks_eq]; rfl

lemma Members.walks_eq (base : Members) :
    base.walks isPrint opts R = base.toList.map (Prod.map id fun v => (v,v.walk isPrint opts R)) := by
  cases base with
  | nil => rfl
  | cons key value rest => rw [Members.walks,rest.walks_eq]; rfl

lemma Json.same_array {base items : Items} :
    (Json.array base).Same (.array items) ↔ List.Forall₂ Json.Same base.toList items.toList := by
  rw [Json.Same,base.sames_eq]
  simp only [Json.array.injEq,exists_eq_left',List.forall₂_map_left_iff]

lemma Json.same_object {base members : Members} : (Json.object base).Same (.object members) ↔
    ∀ k, Option.Rel Json.Same (base.toList.lookup k) (members.toList.lookup k) := by
  rw [Json.Same,base.sames_eq]
  simp only [Json.object.injEq,exists_eq_left',lookup_map_snd]
  refine forall_congr' fun k => ?_
  cases base.toList.lookup k <;> cases members.toList.lookup k <;> simp [Option.rel_some_some]

end

variable {isPrint : Char → Bool} {opts : Strictness} {α β κ : Type}

lemma ignoring_nil (path : String) (own : List Finding) (below : List ContractDiff) :
    (ignoring []).report path own below = own.map (ContractDiff.mk · path) ++ below := rfl

variable {path : String} {k : κ} {describeBase : α → String} {describePrev : β → String} {same : α → β → Prop}
  {b p : Json}

lemma report_eq_nil_iff {own : List Finding} {below : List ContractDiff} :
    (ignoring []).report path own below = [] ↔ own = [] ∧ below = [] := by
  rw [ignoring_nil,List.append_eq_nil_iff,List.map_eq_nil_iff]

lemma mem_unionKeys [DecidableEq κ] [LE κ] [DecidableLE κ] {base prev : List κ} :
    k ∈ unionKeys base prev ↔ k ∈ base ∨ k ∈ prev := by
  rw [unionKeys,List.mem_insertionSort,List.mem_dedup,List.mem_append]

lemma mem_of_lookup [DecidableEq κ] {a : α} {xs : List (κ × α)} (h : xs.lookup k = some a) : (k,a) ∈ xs := by
  obtain ⟨before,after,rfl,-⟩ := List.lookup_eq_some_iff.mp h
  simp

lemma diffEntry_eq_nil_iff {both : α → β → List Finding × List ContractDiff} {b : Option α} {p : Option β}
    (hboth : ∀ x ∈ b, ∀ y, both x y = ([],[]) ↔ same x y) :
    diffEntry opts (ignoring []) path describeBase describePrev both b p = [] ↔ Option.Rel same b p := by
  cases b with
  | none =>
    cases p with
    | none => exact iff_of_true rfl .none
    | some y => exact iff_of_false (by simp [diffEntry,ignoring_nil]) (fun h => by cases h)
  | some x =>
    cases p with
    | none => exact iff_of_false (by simp [diffEntry,ignoring_nil]) (fun h => by cases h)
    | some y => rw [diffEntry,report_eq_nil_iff,Option.rel_some_some,← hboth x rfl y,Prod.ext_iff]

lemma diffKeys_eq_nil_iff [DecidableEq κ] [LE κ] [DecidableLE κ] {keyPath : κ → String}
    {both : κ → α → β → List Finding × List ContractDiff}
    (same : α → β → Prop) {base : List (κ × α)} {prev : List (κ × β)}
    (hboth : ∀ k, ∀ x ∈ base.lookup k, ∀ y, both k x y = ([],[]) ↔ same x y) :
    diffKeys opts (ignoring []) keyPath describeBase describePrev both base prev = [] ↔
      ∀ k, Option.Rel same (base.lookup k) (prev.lookup k) := by
  rw [diffKeys,List.flatMap_eq_nil_iff]
  refine ⟨fun h k => ?_,fun h k _ => (diffEntry_eq_nil_iff (hboth k)).mpr (h k)⟩
  by_cases hk : k ∈ base.map Prod.fst ∨ k ∈ prev.map Prod.fst
  · exact (diffEntry_eq_nil_iff (hboth k)).mp (h k (mem_unionKeys.mpr hk))
  · rw [not_or,List.mem_map,List.mem_map] at hk
    have hnone : ∀ {γ : Type} {xs : List (κ × γ)}, (¬∃ x ∈ xs, x.1 = k) → xs.lookup k = none := by
      intro γ xs hxs
      exact List.lookup_eq_none_iff.mpr fun x hx => bne_iff_ne.mpr fun he => hxs ⟨x,hx,he.symm⟩
    rw [hnone hk.1,hnone hk.2]
    exact .none

lemma alongside_eq_nil_iff {f : α → String → β → List ContractDiff} {vs : List α}
    (hf : ∀ v ∈ vs, ∀ path w, f v path w = [] ↔ same v w) (path : String) (ws : List β) :
    (vs.length = ws.length ∧ alongside true path (vs.map f) ws = []) ↔ List.Forall₂ same vs ws := by
  rw [alongside,if_pos rfl,List.append_nil]
  generalize 0 = n
  induction vs generalizing ws n with
  | nil => cases ws <;> simp
  | cons v vs ih =>
    cases ws with
    | nil => simp
    | cons w ws =>
      rw [List.map_cons,List.zip_cons_cons,List.zipIdx_cons,List.flatMap_cons,List.append_eq_nil_iff,
        List.forall₂_cons,← ih (fun v hv => hf v (by simp [hv])) ws (n + 1),hf v (by simp),List.length_cons,
        List.length_cons,Nat.succ_inj]
      tauto

lemma valueFinding_eq_nil_iff (hcv : opts.compareValues = true) {s t : String} :
    valueFinding opts s t = [] ↔ s = t := by simp [valueFinding,hcv]

lemma scalarFindings_eq_nil_iff (hcv : opts.compareValues = true)
    (hb : (∀ items, b ≠ .array items) ∧ ∀ members, b ≠ .object members) :
    scalarFindings isPrint opts b p = [] ↔ p = b := by
  have hbool : ∀ a c : Bool, toString a = toString c ↔ c = a := by decide
  cases b with
  | array items => exact absurd rfl (hb.1 items)
  | object members => exact absurd rfl (hb.2 members)
  | null => cases p <;> simp [scalarFindings,describeJSONType,valueFinding,formatJSONScalar]
  | bool a => cases p <;> simp [scalarFindings,describeJSONType,valueFinding_eq_nil_iff hcv,formatJSONScalar,hbool]
  | number text =>
    cases p <;> simp [scalarFindings,describeJSONType,valueFinding_eq_nil_iff hcv,formatJSONScalar,eq_comm]
  | string s =>
    cases p <;> simp [scalarFindings,describeJSONType,valueFinding_eq_nil_iff hcv,formatJSONScalar,
      quote_injective.eq_iff,eq_comm]

lemma scalarWalk_eq_nil_iff (hcv : opts.compareValues = true)
    (hb : (∀ items, b ≠ .array items) ∧ ∀ members, b ≠ .object members) :
    (ignoring []).report path (scalarFindings isPrint opts b p) [] = [] ↔ p = b := by
  rw [report_eq_nil_iff,and_iff_left rfl,scalarFindings_eq_nil_iff hcv hb]

mutual
theorem Json.walk_eq_nil_iff (hcv : opts.compareValues = true) : (b : Json) → ∀ path p,
    b.walk isPrint opts (ignoring []) path p = [] ↔ b.Same p
  | .null,_,_ | .bool _,_,_ | .number _,_,_ | .string _,_,_ => scalarWalk_eq_nil_iff hcv (by simp)
  | .array base,path,p => by
    cases p with
    | array items =>
      have hcount : countFinding opts "len" base.toList.length items.toList.length = [] ↔
          base.toList.length = items.toList.length := by simp [countFinding,hcv]
      rw [Json.same_array,← alongside_eq_nil_iff (base.walks_eq_nil_iff hcv) path,Json.walk,base.walks_eq,hcv,
        report_eq_nil_iff,List.length_map,hcount]
    | _ => exact iff_of_false (by simp [Json.walk,ignoring_nil]) (by simp [Json.Same])
  | .object base,path,p => by
    cases p with
    | object members =>
      rw [Json.same_object,Json.walk,report_eq_nil_iff,and_iff_right rfl,base.walks_eq,
        diffKeys_eq_nil_iff fun b p => b.1.Same p]
      · refine forall_congr' fun k => ?_
        rw [lookup_map_snd]
        cases base.toList.lookup k <;> cases members.toList.lookup k <;> simp [Option.rel_some_some]
      · intro k x hx y
        rw [lookup_map_snd] at hx
        obtain ⟨v,hv,rfl⟩ := Option.map_eq_some_iff.mp hx
        rw [← base.walks_eq_nil_iff hcv (k,v) (mem_of_lookup hv) (childPath path k) y,Prod.ext_iff]
        exact and_iff_right rfl
    | _ => exact iff_of_false (by simp [Json.walk,ignoring_nil]) (by simp [Json.Same])

theorem Items.walks_eq_nil_iff (hcv : opts.compareValues = true) : (base : Items) → ∀ b ∈ base.toList, ∀ path p,
    b.walk isPrint opts (ignoring []) path p = [] ↔ b.Same p
  | .nil => fun _ h => absurd h List.not_mem_nil
  | .cons head tail => List.forall_mem_cons.mpr ⟨head.walk_eq_nil_iff hcv,tail.walks_eq_nil_iff hcv⟩

theorem Members.walks_eq_nil_iff (hcv : opts.compareValues = true) : (base : Members) → ∀ b ∈ base.toList,
    ∀ path p, b.2.walk isPrint opts (ignoring []) path p = [] ↔ b.2.Same p
  | .nil => fun _ h => absurd h List.not_mem_nil
  | .cons _ value rest => List.forall_mem_cons.mpr ⟨value.walk_eq_nil_iff hcv,rest.walks_eq_nil_iff hcv⟩
end

/-- The value at a path through objects. -/
def Json.at : Json → List String → Option Json
  | v,[] => some v
  | .object members,k :: keys => (members.toList.lookup k).bind fun v => v.at keys
  | _,_ => none

def NothingBreaks (diffs : List ContractDiff) : Prop := ∀ d ∈ diffs, d.breaking = false

variable {path : String}

lemma nothingBreaks_report {own : List Finding} {below : List ContractDiff} :
    NothingBreaks ((ignoring []).report path own below) ↔
      (∀ f ∈ own, f.breaking = false) ∧ NothingBreaks below := by
  rw [ignoring_nil,NothingBreaks,List.forall_mem_append,List.forall_mem_map]
  rfl

lemma type_eq_of_nothingBreaks {b p : Json}
    (h : NothingBreaks (b.walk isPrint opts (ignoring []) path p)) : describeJSONType p = describeJSONType b := by
  by_contra hne
  have hscalar : scalarFindings isPrint opts b p = [typeMismatch b p] := if_pos (Ne.symm hne)
  have hfound : b.walk isPrint opts (ignoring []) path p = (ignoring []).report path [typeMismatch b p] [] := by
    cases b with
    | array base | object base => cases p <;> first | rfl | exact absurd rfl hne
    | _ => rw [← hscalar]; rfl
  rw [hfound,nothingBreaks_report] at h
  cases h.1 _ List.mem_cons_self

lemma member_of_nothingBreaks {base members : Members}
    (h : NothingBreaks ((Json.object base).walk isPrint opts (ignoring []) path (.object members)))
    {k : String} {v : Json} (hv : base.toList.lookup k = some v) : ∃ w, members.toList.lookup k = some w ∧
      NothingBreaks (v.walk isPrint opts (ignoring []) (childPath path k) w) := by
  rw [Json.walk,nothingBreaks_report,base.walks_eq] at h
  have hin : k ∈ unionKeys ((base.toList.map (Prod.map id fun v => (v,v.walk isPrint opts (ignoring [])))).map
      Prod.fst) (members.toList.map Prod.fst) := by
    rw [mem_unionKeys,List.map_map]
    exact .inl (List.mem_map.mpr ⟨_,mem_of_lookup hv,rfl⟩)
  have hentry := fun d hd => h.2 d (List.mem_flatMap.mpr ⟨k,hin,hd⟩)
  change NothingBreaks _ at hentry
  rw [lookup_map_snd,hv] at hentry
  cases hw : members.toList.lookup k with
  | none =>
    rw [hw,Option.map_some,diffEntry,nothingBreaks_report] at hentry
    cases hentry.1 _ List.mem_cons_self
  | some w =>
    rw [hw,Option.map_some,diffEntry,nothingBreaks_report] at hentry
    exact ⟨w,rfl,hentry.2⟩

lemma subset_alongside {f : α → String → β → List ContractDiff} {vs : List α} {ws : List β}
    {first : α} {w : β} {i : ℕ} (hfirst : vs.head? = some first) (hw : ws[i]? = some w) :
    f ((vs[i]?).getD first) (indexPath path i) w ⊆ alongside false path (vs.map f) ws := by
  intro d hd
  rw [alongside,if_neg (by decide),List.mem_append]
  cases hv : vs[i]? with
  | some v =>
    rw [hv] at hd
    have hmem : ((f v,w),i) ∈ ((vs.map f).zip ws).zipIdx := by
      rw [List.mem_zipIdx_iff_getElem?,List.getElem?_zip_eq_some,List.getElem?_map,hv]
      exact ⟨rfl,hw⟩
    exact .inl (List.mem_flatMap.mpr ⟨_,hmem,hd⟩)
  | none =>
    rw [hv] at hd
    refine .inr ?_
    rw [List.head?_map,hfirst,List.length_map]
    have hle := List.getElem?_eq_none_iff.mp hv
    have hmem : (w,i) ∈ (ws.drop vs.length).zipIdx vs.length := by
      rw [List.mem_zipIdx_iff_le_and_getElem?_sub,List.getElem?_drop,Nat.add_sub_cancel' hle]
      exact ⟨hle,hw⟩
    exact List.mem_flatMap.mpr ⟨_,hmem,hd⟩

/-- With values compared no difference is reported exactly for the same value. Without, where none is
breaking, the preview has what the baseline has at every path through objects, with the same type, and
its items have the types of those of the baseline. -/
theorem json_diffs_complete_and_sound (isPrint : Char → Bool) (opts : DiffOptions) (path : String) (base prev : Json) :
    (opts.compareValues = true →
      (diffJSONValues isPrint { opts with ignoreFields := [] } path base prev = [] ↔ base.Same prev)) ∧
    (opts.compareValues = false →
      (∀ d ∈ diffJSONValues isPrint { opts with ignoreFields := [] } path base prev, d.breaking = false) →
      ∀ keys v, base.at keys = some v → ∃ w, prev.at keys = some w ∧ describeJSONType w = describeJSONType v ∧
        ∀ vs ws first, v = .array vs → w = .array ws → vs.toList.head? = some first →
          ∀ (i : ℕ) item, ws.toList[i]? = some item →
            describeJSONType item = describeJSONType ((vs.toList[i]?).getD first)) := by
  refine ⟨fun hcv => base.walk_eq_nil_iff hcv path prev,fun hcv h keys => ?_⟩
  change NothingBreaks (base.walk isPrint opts.toStrictness (ignoring []) path prev) at h
  induction keys generalizing base prev path with
  | nil =>
    rintro v ⟨⟩
    refine ⟨prev,rfl,type_eq_of_nothingBreaks h,?_⟩
    rintro vs ws first rfl rfl hfirst i item hitem
    rw [Json.walk,nothingBreaks_report,hcv,vs.walks_eq] at h
    exact type_eq_of_nothingBreaks fun d hd => h.2 d (subset_alongside hfirst hitem hd)
  | cons k keys ih =>
    intro v hv
    cases base with
    | object members =>
      rw [Json.at,Option.bind_eq_some_iff] at hv
      obtain ⟨child,hchild,hv⟩ := hv
      have htype := type_eq_of_nothingBreaks h
      cases prev with
      | object others =>
        obtain ⟨w,hw,hbelow⟩ := member_of_nothingBreaks h hchild
        obtain ⟨u,hu,hrest⟩ := ih _ _ _ hbelow v hv
        refine ⟨u,?_,hrest⟩
        rw [Json.at,hw]
        exact hu
      | _ => exact absurd htype (by simp [describeJSONType])
    | _ => cases hv

end Diverge.Replay
