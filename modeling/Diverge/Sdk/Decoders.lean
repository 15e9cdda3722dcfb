import Diverge.Sdk.Propagation

/-! The hand-written decoders side by side: which messages they read alike, and which they refuse when a
field is cut short. -/
namespace Diverge.Sdk
open Text Wire

section
variable (buffer : Bytes)

/-- A varint of any width, and the offset after it. -/
def varint (offset : ℕ) : Option (ℕ × ℕ) := varintAt buffer.length buffer offset

/-- The end of a field's payload; wire types that the decoders do not know have none. -/
def payloadEnd (wireType offset : ℕ) : Option ℕ :=
  if wireType = 0 then (varint buffer offset).map Prod.snd
  else if wireType = 2 then (varint buffer offset).map fun r => r.2 + r.1
  else if wireType = 1 then some (offset + 8)
  else if wireType = 5 then some (offset + 4)
  else some offset

/-- The end of the field at an offset, if the message up to the limit has all of it. -/
def fieldEnd (limit offset : ℕ) : Option ℕ :=
  ((varint buffer offset).bind fun tag => payloadEnd buffer (tag.1 % 8) tag.2).filter (· ≤ limit)

/-- A field of the message from an offset up to a limit is cut short; on the top level, also one of an
entry. -/
inductive CutShort : Bool → ℕ → ℕ → Prop
  | here {top limit offset} (hlt : offset < limit) (hend : fieldEnd buffer limit offset = none) :
      CutShort top limit offset
  | later {top limit offset next} (hlt : offset < limit) (hend : fieldEnd buffer limit offset = some next)
      (hnext : CutShort top limit next) : CutShort top limit offset
  | inside {limit offset tag r} (hlt : offset < limit) (htag : varint buffer offset = some tag)
      (hentry : tag.1 / 8 = 3 ∧ tag.1 % 8 = 2) (hlength : varint buffer tag.2 = some r)
      (hcut : CutShort false (r.2 + r.1) r.2) : CutShort true limit offset

/-- A varint has at most five bytes and 32 bits. -/
def Narrow (offset : ℕ) : Prop := ∀ r, varint buffer offset = some r → r.1 < 4294967296 ∧ r.2 ≤ offset + 5

/-- A payload with a narrow varint or length ends within its message. -/
structure PlainPayload (limit wireType offset : ℕ) : Prop where
  narrow : wireType = 0 ∨ wireType = 2 → Narrow buffer offset
  within : ∀ e, payloadEnd buffer wireType offset = some e → e ≤ limit

/-- The payload is UTF-8, and the rest of the message is as it should be from its end on. -/
def PlainText (offset : ℕ) (rest : String → ℕ → Prop) : Prop :=
  ∀ r, varint buffer offset = some r → ∃ s, (buffer.drop r.2).take r.1 = utf8 s ∧ rest s (r.2 + r.1)

/-- The fields of an entry from an offset on: the key and the value are UTF-8 texts, and the key is not the
one that Node loses. -/
def PlainEntry (limit : ℕ) : ℕ → ℕ → String → Prop
  | 0,_,_ => True
  | fuel+1,offset,key =>
    if offset < limit then
      Narrow buffer offset ∧ ∀ tag, varint buffer offset = some tag →
        PlainPayload buffer limit (tag.1 % 8) tag.2 ∧
          if tag.1 / 8 = 1 then
            tag.1 % 8 = 2 ∧ PlainText buffer tag.2 fun s next => PlainEntry limit fuel next s
          else if tag.1 / 8 = 2 then
            tag.1 % 8 = 2 ∧ PlainText buffer tag.2 fun _ next => PlainEntry limit fuel next key
          else ∀ next, payloadEnd buffer (tag.1 % 8) tag.2 = some next → PlainEntry limit fuel next key
    else key ≠ "__proto__"

/-- The fields of a message from an offset on: the environment is UTF-8, and the routing mode a known one. -/
def PlainFields : ℕ → ℕ → Prop
  | 0,_ => True
  | fuel+1,offset =>
    offset < buffer.length →
      Narrow buffer offset ∧ ∀ tag, varint buffer offset = some tag →
        PlainPayload buffer buffer.length (tag.1 % 8) tag.2 ∧
          if tag.1 / 8 = 1 ∧ tag.1 % 8 = 2 then PlainText buffer tag.2 fun _ next => PlainFields fuel next
          else if tag.1 / 8 = 2 ∧ tag.1 % 8 = 0 then
            ∀ r, varint buffer tag.2 = some r → r.1 ≤ 3 ∧ PlainFields fuel r.2
          else if tag.1 / 8 = 3 ∧ tag.1 % 8 = 2 then
            ∀ r, varint buffer tag.2 = some r →
              PlainEntry buffer (r.2 + r.1) (buffer.length + 1) r.2 "" ∧ PlainFields fuel (r.2 + r.1)
          else ∀ next, payloadEnd buffer (tag.1 % 8) tag.2 = some next → PlainFields fuel next

/-- A message that is plain as far as its varints can be read. -/
def PlainMessage : Prop := PlainFields buffer (buffer.length + 1) 0

end

section
variable (lossyText : Bytes → String) {buffer : Bytes} {limit offset wireType : ℕ}

/-- Both readers refuse, or both read the same, and what they read is as it should be. -/
def Alike {α : Type} (x y : Option α) (done : α → Prop) : Prop := x = y ∧ ∀ a, y = some a → done a

lemma Alike.bind {α β : Type} {x y : Option α} {f g : α → Option β} {p : α → Prop} {q : β → Prop}
    (h : Alike x y p) (hf : ∀ a, p a → Alike (f a) (g a) q) : Alike (x.bind f) (y.bind g) q := by
  obtain ⟨rfl,hp⟩ := h
  cases x with
  | none => exact ⟨rfl,nofun⟩
  | some a => exact hf a (hp a rfl)

lemma Narrow.alike (h : Narrow buffer offset) :
    Alike ((nodeDialect lossyText).decodeVarint buffer offset) (pythonDialect.decodeVarint buffer offset)
      fun r => varint buffer offset = some r := by
  refine ⟨?_,fun r hr => hr⟩
  change (varintAt 5 buffer offset).map (fun r => (r.1 % 4294967296,r.2)) = varintAt buffer.length buffer offset
  unfold varintAt
  cases hr : readVarint buffer.length (buffer.drop offset) with
  | none =>
    rw [readVarint_cut hr (by simp) 5]
    rfl
  | some r =>
    obtain ⟨hvalue,hend⟩ := h (r.1,buffer.length - r.2.length) (by rw [varint,varintAt,hr,Option.map_some])
    have hfive : readVarint 5 (buffer.drop offset) = some r := by
      refine readVarint_limit hr ?_
      rw [List.length_drop]
      dsimp only at hend
      omega
    rw [hfive]
    exact congrArg (fun n => some (n,_)) (Nat.mod_eq_of_lt hvalue)

lemma PlainPayload.slice {r : ℕ × ℕ} (h : PlainPayload buffer limit 2 offset) (hlimit : limit ≤ buffer.length)
    (hr : varint buffer offset = some r) : payloadEnd buffer 2 offset = some (r.2 + r.1) ∧ r.2 + r.1 ≤ limit ∧
      (nodeDialect lossyText).slice buffer r.2 r.1 = some ((buffer.drop r.2).take r.1) := by
  have hend : payloadEnd buffer 2 offset = some (r.2 + r.1) := by simp [payloadEnd,hr]
  have hle := h.within _ hend
  exact ⟨hend,hle,if_neg (by omega)⟩

lemma PlainPayload.alike (h : PlainPayload buffer limit wireType offset) (hlimit : limit ≤ buffer.length) :
    Alike ((nodeDialect lossyText).skipField buffer offset wireType)
      (pythonDialect.skipField buffer offset wireType)
      fun e => payloadEnd buffer wireType offset = some e ∧ e ≤ limit := by
  have hpython : pythonDialect.skipField buffer offset wireType = payloadEnd buffer wireType offset := by
    unfold Dialect.skipField payloadEnd
    split_ifs
    · rfl
    · exact Option.map_eq_bind.symm
    · rfl
    · rfl
    · rfl
  refine ⟨?_,fun e he => ?_⟩
  · unfold Dialect.skipField
    split_ifs with h0 h2
    · rw [((h.narrow (.inl h0)).alike lossyText).1]
    · subst h2
      refine (((h.narrow (.inr rfl)).alike lossyText).bind (q := fun _ => True) fun r hr => ?_).1
      rw [(h.slice lossyText hlimit hr).2.2]
      exact ⟨rfl,fun _ _ => trivial⟩
    · rfl
    · rfl
    · rfl
  · rw [hpython] at he
    exact ⟨he,h.within e he⟩

variable {lossyText}

lemma PlainText.alike {rest : String → ℕ → Prop} (htext : PlainText buffer offset rest)
    (h : PlainPayload buffer limit 2 offset) (hlimit : limit ≤ buffer.length)
    (hlossy : ∀ s, lossyText (utf8 s) = s) :
    Alike ((nodeDialect lossyText).readString buffer offset) (pythonDialect.readString buffer offset)
      fun r => payloadEnd buffer 2 offset = some r.2 ∧ r.2 ≤ limit ∧ rest r.1 r.2 := by
  unfold Dialect.readString
  refine ((h.narrow (.inr rfl)).alike lossyText).bind fun r hr => ?_
  obtain ⟨s,hslice,hrest⟩ := htext r hr
  obtain ⟨hend,hle,hnode⟩ := h.slice lossyText hlimit hr
  have hpython : pythonDialect.slice buffer r.2 r.1 = some (utf8 s) := congrArg some hslice
  have hstrict : pythonDialect.text (utf8 s) = some s := strictText_utf8 s
  have hloose : (nodeDialect lossyText).text (utf8 s) = some s := congrArg some (hlossy s)
  rw [hnode,hslice,hpython,Option.bind_some,Option.bind_some,hstrict,hloose]
  refine ⟨rfl,fun r' hr' => ?_⟩
  obtain rfl := Option.some.inj hr'
  exact ⟨hend,hle,hrest⟩

lemma not_cutShort {top : Bool} {tag : ℕ × ℕ} {next : ℕ} (htag : varint buffer offset = some tag)
    (hend : payloadEnd buffer (tag.1 % 8) tag.2 = some next) (hlimit : next ≤ limit)
    (hnext : ¬CutShort buffer top limit next)
    (hentry : top = true → tag.1 / 8 = 3 ∧ tag.1 % 8 = 2 → ∀ r, varint buffer tag.2 = some r →
      ¬CutShort buffer false (r.2 + r.1) r.2) : ¬CutShort buffer top limit offset := by
  have hfield : fieldEnd buffer limit offset = some next := by
    rw [fieldEnd,htag,Option.bind_some,hend]
    simp [hlimit]
  intro hcut
  cases hcut with
  | here hlt h =>
    rw [hfield] at h
    cases h
  | later hlt h hcut =>
    rw [hfield] at h
    obtain rfl := Option.some.inj h
    exact hnext hcut
  | inside hlt h hthree hlength hcut =>
    obtain rfl := Option.some.inj (htag.symm.trans h)
    exact hentry rfl hthree _ hlength hcut

lemma not_cutShort_of_le {top : Bool} (h : ¬offset < limit) : ¬CutShort buffer top limit offset := by
  intro hcut
  cases hcut <;> contradiction

lemma PlainEntry.alike (hlossy : ∀ s, lossyText (utf8 s) = s) (hlimit : limit ≤ buffer.length) {fuel : ℕ}
    (kv : String × String) (h : PlainEntry buffer limit fuel offset kv.1) (hoffset : offset ≤ limit) :
    Alike ((nodeDialect lossyText).entryLoop buffer limit fuel offset kv)
      (pythonDialect.entryLoop buffer limit fuel offset kv)
      fun e => e.1 = limit ∧ e.2.1 ≠ "__proto__" ∧ ¬CutShort buffer false limit offset := by
  induction fuel generalizing offset kv with
  | zero => exact ⟨rfl,fun e he => by cases he⟩
  | succ fuel ih =>
    unfold Dialect.entryLoop
    unfold PlainEntry at h
    split_ifs at h ⊢ with hlt
    · refine (h.1.alike lossyText).bind fun tag htag => ?_
      obtain ⟨hpayload,hrest⟩ := h.2 tag htag
      have hstep : ∀ {next : ℕ} {kv : String × String}, payloadEnd buffer (tag.1 % 8) tag.2 = some next →
          next ≤ limit → PlainEntry buffer limit fuel next kv.1 →
          Alike ((nodeDialect lossyText).entryLoop buffer limit fuel next kv)
            (pythonDialect.entryLoop buffer limit fuel next kv)
            fun e => e.1 = limit ∧ e.2.1 ≠ "__proto__" ∧ ¬CutShort buffer false limit offset := by
        intro next kv hend hle hplain
        obtain ⟨hsame,hdone⟩ := ih kv hplain hle
        refine ⟨hsame,fun e he => ?_⟩
        obtain ⟨hlast,hkey,hcut⟩ := hdone e he
        exact ⟨hlast,hkey,not_cutShort htag hend hle hcut fun h => absurd h Bool.false_ne_true⟩
      split_ifs at hrest ⊢ with hone htwo
      · refine (hrest.2.alike (hrest.1 ▸ hpayload) hlimit hlossy).bind fun r hr => ?_
        exact hstep (hrest.1 ▸ hr.1) hr.2.1 hr.2.2
      · refine (hrest.2.alike (hrest.1 ▸ hpayload) hlimit hlossy).bind fun r hr => ?_
        exact hstep (hrest.1 ▸ hr.1) hr.2.1 hr.2.2
      · exact (hpayload.alike lossyText hlimit).bind fun next hnext => hstep hnext.1 hnext.2 (hrest next hnext.1)
    · refine ⟨rfl,fun e he => ?_⟩
      obtain rfl := Option.some.inj he
      exact ⟨by omega,h,not_cutShort_of_le hlt⟩

/-- The decoders read a message alike, and accept it only if nothing is cut short. -/
lemma PlainFields.alike (hlossy : ∀ s, lossyText (utf8 s) = s) {fuel : ℕ} (ctx : PropagationContext)
    (h : PlainFields buffer fuel offset) (hoffset : offset ≤ buffer.length) :
    Alike ((nodeDialect lossyText).fieldLoop buffer fuel offset ctx)
      (pythonDialect.fieldLoop buffer fuel offset ctx)
      fun _ => ¬CutShort buffer true buffer.length offset := by
  induction fuel generalizing offset ctx with
  | zero => exact ⟨rfl,nofun⟩
  | succ fuel ih =>
    unfold Dialect.fieldLoop
    unfold PlainFields at h
    split_ifs with hlt
    · obtain ⟨hnarrow,hfield⟩ := h hlt
      refine (hnarrow.alike lossyText).bind fun tag htag => ?_
      obtain ⟨hpayload,hrest⟩ := hfield tag htag
      have hstep : ∀ {next : ℕ} {ctx : PropagationContext}, payloadEnd buffer (tag.1 % 8) tag.2 = some next →
          next ≤ buffer.length → PlainFields buffer fuel next →
          (tag.1 / 8 = 3 ∧ tag.1 % 8 = 2 → ∀ r, varint buffer tag.2 = some r →
            ¬CutShort buffer false (r.2 + r.1) r.2) →
          Alike ((nodeDialect lossyText).fieldLoop buffer fuel next ctx)
            (pythonDialect.fieldLoop buffer fuel next ctx)
            fun _ => ¬CutShort buffer true buffer.length offset := by
        intro next ctx hend hle hplain hentry
        obtain ⟨hsame,hdone⟩ := ih ctx hplain hle
        exact ⟨hsame,fun e he => not_cutShort htag hend hle (hdone e he) fun _ => hentry⟩
      split_ifs at hrest ⊢ with hone htwo hthree
      · refine (hrest.alike (hone.2 ▸ hpayload) (Nat.le_refl _) hlossy).bind fun r hr => ?_
        exact hstep (hone.2 ▸ hr.1) hr.2.1 hr.2.2 fun hthree => by omega
      · refine ((hpayload.narrow (.inl htwo.2)).alike lossyText).bind fun r hr => ?_
        obtain ⟨hmode,hplain⟩ := hrest r hr
        have hend : payloadEnd buffer (tag.1 % 8) tag.2 = some r.2 := by simp [payloadEnd,htwo.2,hr]
        have hpython : pythonDialect.routingMode ctx.routingMode r.1 = r.1 := if_pos hmode
        rw [hpython]
        exact hstep hend (hpayload.within _ hend) hplain fun hthree => by omega
      · have hpayload : PlainPayload buffer buffer.length 2 tag.2 := hthree.2 ▸ hpayload
        refine ((hpayload.narrow (.inr rfl)).alike lossyText).bind fun r hr => ?_
        obtain ⟨hentry,hplain⟩ := hrest r hr
        obtain ⟨hend,hle,hnode⟩ := hpayload.slice lossyText (Nat.le_refl _) hr
        rw [hnode,Option.bind_some]
        refine (PlainEntry.alike hlossy hle ("","") hentry (Nat.le_add_right _ _)).bind fun e he => ?_
        have hput : (nodeDialect lossyText).put ctx.metadata e.2.1 e.2.2 =
            pythonDialect.put ctx.metadata e.2.1 e.2.2 := if_neg he.2.1
        rw [hput,he.1]
        refine hstep (hthree.2 ▸ hend) hle hplain fun _ r' hr' => ?_
        obtain rfl := Option.some.inj (hr.symm.trans hr')
        exact he.2.2
      · refine (hpayload.alike lossyText (Nat.le_refl _)).bind fun next hnext => ?_
        exact hstep hnext.1 hnext.2 (hrest next hnext.1) fun h => absurd h hthree
    · exact ⟨rfl,fun _ _ => not_cutShort_of_le hlt⟩

end

def replacedText (bytes : Bytes) : String := String.ofList (runes bytes)

end Diverge.Sdk
