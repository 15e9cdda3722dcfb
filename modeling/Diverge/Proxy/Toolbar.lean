import Diverge.Text.ByteStrings
import Diverge.Text.Numbers

/-! The toolbar's script tag in HTML responses. The proxy looks for the end of the document in a lower-cased
copy of the body and inserts the tag at the index that it finds there. -/
namespace Diverge.Proxy
open Text ByteStrings

def maxToolbarInspectBytes : ℕ := 4194304

def closingTag : Bytes := utf8 "</body>"

def scriptTag : Bytes := utf8 "<script src=\"/-/toolbar.js\" defer></script>"

/-- `unicode.ToLower`, as far as the closing tag can tell. -/
structure Lowering where
  lower : Char → Char
  ascii : ∀ c, c.toNat < 128 → lower c = c.toLower
  closing : ∀ c, lower c ∈ "</body>".toList → c.toNat < 128

/-- `strings.ToLower`: a byte of no character is replaced. -/
def Lowering.toLower (L : Lowering) (s : Bytes) : Bytes := encode ((runes s).map L.lower)

/-- What can be read of a body, and the error that reading it ends with, if any. -/
structure Body where
  bytes : Bytes
  err : Option String
  deriving DecidableEq

/-- What is read and written of a response; `optOut` is the header of its request. -/
structure Response where
  optOut : String
  contentType : String
  contentEncoding : String
  contentLength : ℤ
  contentLengthHeader : String
  body : Option Body
  deriving DecidableEq

/-- A new body, with its length in the response and in its header. -/
def Response.withBody (resp : Response) (bytes : Bytes) : Response :=
  { resp with
    body := some ⟨bytes,none⟩
    contentLength := bytes.length
    contentLengthHeader := formatInt bytes.length }

/-- The responses whose body is looked at. -/
def Response.inspected (resp : Response) : Bool :=
  !equalFold (Text.trimSpace resp.optOut) "off" && Text.contains (Text.toLower resp.contentType) "text/html" &&
    resp.contentEncoding == ""

def insertScript (s : Bytes) (i : ℕ) : Bytes := s.take i ++ scriptTag ++ s.drop i

/-- `none` is the panic of a slice beyond the end. -/
def injectToolbarModifyResponse (L : Lowering) (resp : Response) : Option (Except String Response) :=
  match resp.body with
  | none => some (.ok resp)
  | some body =>
    if resp.inspected then
      let buf := body.bytes.take (maxToolbarInspectBytes + 1)
      if maxToolbarInspectBytes < buf.length then
        some (.ok { resp with body := some ⟨buf ++ body.bytes.drop (maxToolbarInspectBytes + 1),body.err⟩ })
      else
        match body.err with
        | some err => some (.error err)
        | none =>
          if contains buf (utf8 "/-/toolbar.js") then some (.ok { resp with body := some ⟨buf,none⟩ })
          else
            match lastIndex closingTag (L.toLower buf) with
            | none => some (.ok { resp with body := some ⟨buf,none⟩ })
            | some idx => if idx ≤ buf.length then some (.ok (resp.withBody (insertScript buf idx))) else none
    else some (.ok resp)

def asciiLower (b : UInt8) : UInt8 := if 65 ≤ b ∧ b ≤ 90 then b + 32 else b

/-- The index of the last closing tag, in any case. -/
def lastClosing (s : Bytes) : Option ℕ := lastIndex closingTag (s.map asciiLower)

/-- The response with the script before the last closing tag of its body. -/
def Response.inserted (resp : Response) (bytes : Bytes) : Response :=
  match lastClosing bytes with
  | none => resp
  | some i => resp.withBody (insertScript bytes i)

lemma closing_chars {d : Char} (hd : d ∈ "</body>".toList) : d.toNat < 128 ∧ d ≠ 'i' ∧ d ≠ 'k' := by
  have hall : ("</body>".toList.all fun d => d.toNat < 128 ∧ d ≠ 'i' ∧ d ≠ 'k') = true := by decide +kernel
  exact of_decide_eq_true (List.all_eq_true.mp hall d hd)

section
variable (L : Lowering) {b : UInt8}

lemma toLower_ascii (hb : b < 128) (s : Bytes) : L.toLower (b :: s) = asciiLower b :: L.toLower s := by
  have hall : ∀ n < 128, String.utf8EncodeChar (Char.ofNat n).toLower = [asciiLower (UInt8.ofNat n)] := by
    decide +kernel
  have hn : b.toNat < 128 := hb
  have hrunes := runes_encodeChar (Char.ofNat b.toNat) s
  rw [utf8EncodeChar_ascii hb,List.singleton_append] at hrunes
  rw [Lowering.toLower,hrunes,List.map_cons,encode_cons,L.ascii _ (by rw [toNat_charOfNat (by omega)]; exact hn),
    hall _ hn,UInt8.ofNat_toNat]
  rfl

lemma not_closing_of_le (hb : 128 ≤ b.toNat) : b ∉ closingTag := by
  have hall : ∀ x ∈ closingTag, x.toNat < 128 := by decide +kernel
  exact fun h => absurd (hall b h) (by omega)

lemma not_closing_of_lower {c : Char} (hc : 128 ≤ c.toNat) {x : UInt8}
    (hx : x ∈ String.utf8EncodeChar (L.lower c)) : x ∉ closingTag := by
  by_cases hascii : (L.lower c).toNat < 128
  · rw [encodeChar_of_ascii hascii,List.mem_singleton] at hx
    subst hx
    intro hmem
    rw [closingTag,utf8_of_ascii fun c hc => (closing_chars hc).1] at hmem
    obtain ⟨d,hd,heq⟩ := List.mem_map.mp hmem
    have hchar := congrArg (fun x : UInt8 => Char.ofNat x.toNat) heq
    rw [charOfNat_byte (closing_chars hd).1] at hchar
    have hsame : Char.ofNat (UInt8.ofNat (L.lower c).toNat).toNat = L.lower c := charOfNat_byte hascii
    exact absurd (L.closing c (hsame ▸ hchar ▸ hd)) (by omega)
  · exact not_closing_of_le (le_of_mem_encodeChar (Nat.le_of_not_lt hascii) hx)

lemma toLower_other (hb : 128 ≤ b.toNat) (s : Bytes) :
    ∃ piece rest low, b :: s = piece ++ rest ∧ piece ≠ [] ∧ low ≠ [] ∧ (∀ x ∈ piece, 128 ≤ x.toNat) ∧
      (∀ x ∈ low, x ∉ closingTag) ∧ ∀ r, r <+: rest → L.toLower (piece ++ r) = low ++ L.toLower r := by
  by_cases hstart : ∃ c rest, b :: s = String.utf8EncodeChar c ++ rest
  · obtain ⟨c,rest,heq⟩ := hstart
    have hc : 128 ≤ c.toNat := by
      by_contra hascii
      rw [encodeChar_of_ascii (Nat.lt_of_not_le hascii)] at heq
      rw [(List.cons.inj heq).1,UInt8.toNat_ofNat'] at hb
      exact hascii (Nat.le_trans hb (Nat.mod_le _ _))
    refine ⟨_,rest,_,heq,String.utf8EncodeChar_ne_nil,String.utf8EncodeChar_ne_nil,
      fun x hx => le_of_mem_encodeChar hc hx,fun x hx => not_closing_of_lower L hc hx,fun r _ => ?_⟩
    rw [Lowering.toLower,runes_encodeChar,List.map_cons,encode_cons]
    rfl
  · refine ⟨[b],s,_,rfl,List.cons_ne_nil _ _,String.utf8EncodeChar_ne_nil,
      fun x hx => List.mem_singleton.mp hx ▸ hb,fun x hx => not_closing_of_lower L (c := runeError) (by decide) hx,
      fun r hr => ?_⟩
    rcases runes_cons_cases b r with ⟨c,rest,heq⟩ | hbad
    · obtain ⟨more,rfl⟩ := hr
      exact absurd ⟨c,rest ++ more,by rw [← List.append_assoc,← heq]; rfl⟩ hstart
    · rw [List.singleton_append,Lowering.toLower,hbad,List.map_cons,encode_cons]
      rfl

lemma isPrefixOf_toLower {p : Bytes} (hp : ∀ x ∈ p, x ∈ closingTag) (s : Bytes) :
    p.isPrefixOf (L.toLower s) = p.isPrefixOf (s.map asciiLower) := by
  induction p generalizing s with
  | nil => rfl
  | cons x p ih =>
    cases s with
    | nil => rfl
    | cons b s =>
      have hx := hp x List.mem_cons_self
      by_cases hb : b < 128
      · rw [toLower_ascii L hb,List.map_cons,List.isPrefixOf,List.isPrefixOf,
          ih fun y hy => hp y (List.mem_cons_of_mem x hy)]
      · have hle : 128 ≤ b.toNat := Nat.le_of_not_lt hb
        obtain ⟨piece,rest,low,heq,-,hne,-,hlow,htail⟩ := toLower_other L hle s
        have hfix : asciiLower b = b := if_neg fun h => absurd (show b.toNat ≤ 90 from h.2) (by omega)
        obtain ⟨y,low,rfl⟩ := List.exists_cons_of_ne_nil hne
        have hxy : (x == y) = false := beq_false_of_ne fun h => hlow y List.mem_cons_self (h ▸ hx)
        have hxb : (x == b) = false := beq_false_of_ne fun h => not_closing_of_le hle (h ▸ hx)
        rw [heq,htail rest List.prefix_rfl,← heq,List.cons_append,List.map_cons,List.isPrefixOf,List.isPrefixOf,hfix,
          hxy,hxb]
        rfl

lemma lastIndex_toLower (s : Bytes) :
    lastIndex closingTag (L.toLower s) = (lastClosing s).map fun i => (L.toLower (s.take i)).length := by
  have htag : closingTag = 60 :: closingTag.tail := by decide +kernel
  induction hn : s.length using Nat.strongRecOn generalizing s with
  | ind n ih =>
    cases s with
    | nil => rfl
    | cons b s =>
      by_cases hb : b < 128
      · have hs := ih s.length (by rw [← hn]; exact Nat.lt_succ_self _) s rfl
        have htest := isPrefixOf_toLower L (fun x hx => hx) (b :: s) (p := closingTag)
        rw [lastClosing] at hs ⊢
        rw [toLower_ascii L hb,List.map_cons] at htest
        rw [toLower_ascii L hb,List.map_cons,lastIndex,lastIndex,hs,htest]
        cases lastIndex closingTag (s.map asciiLower) with
        | some i =>
          change some _ = some (L.toLower ((b :: s).take (i + 1))).length
          rw [List.take_succ_cons,toLower_ascii L hb]
          rfl
        | none =>
          change ite _ _ _ = Option.map _ (ite _ _ _)
          split_ifs <;> rfl
      · have hle : 128 ≤ b.toNat := Nat.le_of_not_lt hb
        obtain ⟨piece,rest,low,heq,hne,-,hpiece,hlow,htail⟩ := toLower_other L hle s
        have hpos := List.length_pos_of_ne_nil hne
        rw [heq,List.length_append] at hn
        have hrest := ih rest.length (by omega) rest rfl
        have hfix : piece.map asciiLower = piece := by
          refine (List.map_congr_left fun x hx => ?_).trans (List.map_id piece)
          exact if_neg fun h => absurd (show x.toNat ≤ 90 from h.2) (by have := hpiece x hx; omega)
        have hmem : (60 : UInt8) ∈ closingTag := by decide +kernel
        rw [lastClosing] at hrest ⊢
        rw [heq,htail rest List.prefix_rfl,List.map_append,hfix,htag,
          lastIndex_append (fun h => hlow 60 h hmem),
          lastIndex_append (fun h => not_closing_of_le (hpiece 60 h) hmem),← htag,hrest]
        cases lastIndex closingTag (rest.map asciiLower) with
        | none => rfl
        | some i =>
          change some _ = some (L.toLower ((piece ++ rest).take (piece.length + i))).length
          rw [List.take_length_add_append,htail _ (List.take_prefix i rest),List.length_append]

end

lemma eq_nil_of_commutes {w : Bytes} (h : w ++ scriptTag = scriptTag ++ w) (hw : ¬scriptTag <+: w) : w = [] := by
  have hturn : ∀ k < scriptTag.length, scriptTag.drop k ++ scriptTag.take k = scriptTag → k = 0 := by
    decide +kernel
  have hlt : w.length < scriptTag.length := by
    by_contra hle
    exact hw (List.prefix_of_prefix_length_le ⟨w,h.symm⟩ ⟨scriptTag,rfl⟩ (Nat.le_of_not_lt hle))
  obtain ⟨z,hz⟩ := List.prefix_of_prefix_length_le (List.prefix_append w scriptTag) ⟨w,h.symm⟩ hlt.le
  have hswap : z ++ w = scriptTag := by
    rw [← hz,List.append_assoc] at h
    exact (List.append_cancel_left h).symm.trans hz
  refine List.length_eq_zero_iff.mp (hturn _ hlt ?_)
  conv_lhs => rw [← hz,List.drop_left,List.take_left]
  exact hswap

lemma insertScript_inj {s : Bytes} (hs : ¬scriptTag <:+: s) {i j : ℕ} (hi : i ≤ s.length) (hj : j ≤ s.length)
    (h : insertScript s i = insertScript s j) : i = j := by
  wlog hle : i ≤ j generalizing i j
  · exact (this hj hi h.symm (Nat.le_of_not_le hle)).symm
  obtain ⟨a,w,c,rfl,rfl,rfl⟩ : ∃ a w c, s = a ++ (w ++ c) ∧ i = a.length ∧ j = a.length + w.length := by
    refine ⟨s.take i,(s.drop i).take (j - i),(s.drop i).drop (j - i),?_,?_,?_⟩
    · rw [List.take_append_drop,List.take_append_drop]
    · rw [List.length_take]
      omega
    · rw [List.length_take,List.length_take,List.length_drop]
      omega
  rw [insertScript,insertScript,List.take_left,List.drop_left,List.take_length_add_append,List.drop_length_add_append,
    List.take_left,List.drop_left,List.append_assoc,List.append_assoc,List.append_assoc] at h
  have hswap := List.append_cancel_left h
  rw [← List.append_assoc,← List.append_assoc] at hswap
  rw [eq_nil_of_commutes (List.append_cancel_right hswap).symm fun ⟨d,hd⟩ => hs ⟨a,d ++ c,by
    rw [← hd,List.append_assoc,List.append_assoc]⟩,List.length_nil,Nat.add_zero]

lemma not_infix_of_new {s : Bytes} (h : contains s (utf8 "/-/toolbar.js") = false) : ¬scriptTag <:+: s := by
  intro hscript
  have hpath : utf8 "/-/toolbar.js" <:+: scriptTag := by decide +kernel
  obtain ⟨t,ht,hs⟩ := List.infix_iff_prefix_suffix.mp (hpath.trans hscript)
  have hfound : contains s (utf8 "/-/toolbar.js") = true :=
    List.any_eq_true.mpr ⟨t,(List.mem_tails t s).mpr hs,List.isPrefixOf_iff_prefix.mpr ht⟩
  rw [h] at hfound
  cases hfound

lemma lastIndex_le {sub s : Bytes} {i : ℕ} (h : lastIndex sub s = some i) : i ≤ s.length := by
  induction s generalizing i with
  | nil =>
    rw [lastIndex] at h
    split_ifs at h
    cases h
    exact Nat.le_refl _
  | cons b s ih =>
    rw [lastIndex] at h
    cases hs : lastIndex sub s with
    | none =>
      rw [hs,Option.map_none,Option.none_or] at h
      split_ifs at h
      cases h
      exact Nat.zero_le _
    | some j =>
      rw [hs,Option.map_some,Option.some_or] at h
      cases h
      exact Nat.succ_le_succ (ih hs)

/-- A body that is too long is passed on as it is. One that is read to its end and does not have the script yet
gets it right before its last closing tag, with the length of the new body, exactly when lower-casing keeps the
length of what stands before that tag; without such a tag nothing changes. -/
theorem toolbar_inserted_iff (L : Lowering) (resp : Response) (body : Body) (hbody : resp.body = some body)
    (hresp : resp.inspected = true) :
    (maxToolbarInspectBytes < body.bytes.length → injectToolbarModifyResponse L resp = some (.ok resp)) ∧
    (body.bytes.length ≤ maxToolbarInspectBytes → body.err = none →
      contains body.bytes (utf8 "/-/toolbar.js") = false →
      (injectToolbarModifyResponse L resp = some (.ok (resp.inserted body.bytes)) ↔
        ∀ i, lastClosing body.bytes = some i → (L.toLower (body.bytes.take i)).length = i)) := by
  rw [injectToolbarModifyResponse,hbody]
  dsimp only
  rw [if_pos hresp]
  constructor
  · intro hlong
    rw [if_pos (by rw [List.length_take]; omega),List.take_append_drop,← hbody]
  · intro hshort herr hnew
    rw [List.take_of_length_le (Nat.le_succ_of_le hshort),if_neg (Nat.not_lt.mpr hshort),herr]
    dsimp only
    rw [if_neg (by rw [hnew]; exact Bool.false_ne_true),lastIndex_toLower,Response.inserted]
    cases hlast : lastClosing body.bytes with
    | none =>
      refine iff_of_true ?_ fun i hi => by cases hi
      obtain ⟨bytes,err⟩ := body
      cases herr
      change some (Except.ok { resp with body := some ⟨bytes,none⟩ }) = _
      rw [← hbody]
    | some i =>
      have hi : i ≤ body.bytes.length := by
        have h := lastIndex_le hlast
        rwa [List.length_map] at h
      constructor
      · intro h j hj
        cases hj
        dsimp only [Option.map_some] at h
        split_ifs at h with hle
        have hbodies := congrArg Response.body (Except.ok.inj (Option.some.inj h))
        exact insertScript_inj (not_infix_of_new hnew) hle hi (congrArg Body.bytes (Option.some.inj hbodies))
      · intro h
        dsimp only [Option.map_some]
        rw [h i rfl,if_pos hi]

def sampleLowering : Lowering where
  lower := lowerChar
  ascii c hc := by
    rw [lowerChar,if_neg (by omega),if_neg (by omega)]
  closing c hc := by
    by_contra hle
    obtain ⟨hascii,hi,hk⟩ := closing_chars hc
    unfold lowerChar at hascii hi hk
    split_ifs at hascii hi hk
    · exact hi rfl
    · exact hk rfl
    · have hsame : c.toLower = c := dif_neg fun h => hle (Nat.lt_of_le_of_lt h.2 (by decide))
      exact hle (hsame ▸ hascii)

def page (text : Bytes) : Response where
  optOut := ""
  contentType := "text/html; charset=utf-8"
  contentEncoding := ""
  contentLength := text.length
  contentLengthHeader := formatInt text.length
  body := some ⟨text,none⟩

def accented : Bytes := utf8 "<p>é</p></BODY>"

theorem page_gets_script : injectToolbarModifyResponse sampleLowering (page accented) =
      some (.ok ((page accented).withBody (insertScript accented 9))) := by
  have hlast : lastClosing accented = some 9 := by decide +kernel
  have hright := (toolbar_inserted_iff sampleLowering (page accented) ⟨accented,none⟩ rfl (by decide +kernel)).2
    (by decide +kernel) rfl (by decide +kernel)
  rw [Response.inserted,hlast] at hright
  refine hright.mpr fun i hi => ?_
  cases hi
  decide +kernel

/-- A byte that is no text moves the script into the closing tag, and ten of them make the proxy panic. -/
theorem invalid_bytes_misplace_script :
    injectToolbarModifyResponse sampleLowering (page (0xff :: closingTag)) =
        some (.ok ((page (0xff :: closingTag)).withBody (insertScript (0xff :: closingTag) 3))) ∧
      lastClosing (0xff :: closingTag) = some 1 ∧
      injectToolbarModifyResponse sampleLowering (page (List.replicate 10 0xff ++ closingTag)) = none := by
  decide +kernel

end Diverge.Proxy
