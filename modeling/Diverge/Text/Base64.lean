import Mathlib.Data.List.TakeWhile
import Diverge.Text.Bytes

/-! Base64 as in Go's `encoding/base64`: in decoding line breaks are skipped, and the padded
encodings ask for full groups. The lenient decoders of Node and Python skip what is no digit. -/
namespace Diverge.Text

/-- The two last characters of the alphabet, and whether groups are padded. -/
structure Base64 where
  char62 : UInt8
  char63 : UInt8
  padded : Bool
  deriving DecidableEq

def Base64.rawStd : Base64 := ⟨43,47,false⟩
def Base64.std : Base64 := ⟨43,47,true⟩
def Base64.rawURL : Base64 := ⟨45,95,false⟩
def Base64.url : Base64 := ⟨45,95,true⟩

def Base64.sextet (enc : Base64) (b : UInt8) : Option ℕ :=
  if 65 ≤ b ∧ b ≤ 90 then some (b.toNat - 65)
  else if 97 ≤ b ∧ b ≤ 122 then some (b.toNat - 71)
  else if 48 ≤ b ∧ b ≤ 57 then some (b.toNat + 4)
  else if b = enc.char62 then some 62
  else if b = enc.char63 then some 63
  else none

/-- Groups of four sextets as three bytes; a last group of two or three is shorter. -/
def unpackSextets : List ℕ → Option Bytes
  | [] => some []
  | [_] => none
  | [a,b] => some [(a*4 + b/16).toUInt8]
  | [a,b,c] => some [(a*4 + b/16).toUInt8,(b%16*16 + c/4).toUInt8]
  | a :: b :: c :: d :: rest =>
    (unpackSextets rest).map fun bytes =>
      (a*4 + b/16).toUInt8 :: (b%16*16 + c/4).toUInt8 :: (c%4*64 + d).toUInt8 :: bytes

def Base64.decodeString (enc : Base64) (s : Bytes) : Option Bytes :=
  let text := s.filter fun b => b != 10 && b != 13
  let body := text.takeWhile fun b => (enc.sextet b).isSome
  let padding := if enc.padded then (4 - body.length % 4) % 4 else 0
  if text.drop body.length = List.replicate padding 61 then
    unpackSextets (body.filterMap enc.sextet)
  else none

/-- Groups of three bytes as four sextets; a last group of one or two is shorter. -/
def packBytes : Bytes → List ℕ
  | [] => []
  | [a] => [a.toNat/4,a.toNat%4*16]
  | [a,b] => [a.toNat/4,a.toNat%4*16 + b.toNat/16,b.toNat%16*4]
  | a :: b :: c :: rest =>
    a.toNat/4 :: (a.toNat%4*16 + b.toNat/16) :: (b.toNat%16*4 + c.toNat/64) :: c.toNat%64 :: packBytes rest

def Base64.digit (enc : Base64) (n : ℕ) : UInt8 :=
  if n < 26 then (n + 65).toUInt8
  else if n < 52 then (n + 71).toUInt8
  else if n < 62 then (n - 4).toUInt8
  else if n = 62 then enc.char62
  else enc.char63

def paddingOf (n : ℕ) : ℕ := (4 - n % 4) % 4

def Base64.encodeToString (enc : Base64) (bytes : Bytes) : Bytes :=
  (packBytes bytes).map enc.digit ++
    List.replicate (if enc.padded then paddingOf (packBytes bytes).length else 0) 61

/-- `strings.TrimRight` with `=`, and what Node and Python do to the same effect. -/
def trimPadding (s : Bytes) : Bytes := (s.reverse.dropWhile (· == 61)).reverse

def nodeSextet (b : UInt8) : Option ℕ := (Base64.rawStd.sextet b).or (Base64.rawURL.sextet b)

/-- Node's `Buffer.from`: what is no digit is skipped, and a last digit on its own is dropped. -/
def nodeDecode (s : Bytes) : Bytes :=
  (unpackSextets ((s.filterMap nodeSextet).take
    (if (s.filterMap nodeSextet).length % 4 = 1 then (s.filterMap nodeSextet).length - 1
      else (s.filterMap nodeSextet).length))).getD []

/-- The digits that Python's `a2b_base64` reads: it skips what is no digit, and stops where padding
completes a group. -/
def pythonSextets : List ℕ → ℕ → Bytes → Option (List ℕ)
  | digits,_,[] => if digits.length % 4 = 0 then some digits else none
  | digits,pads,b :: rest =>
    if b = 61 then
      if 2 ≤ digits.length % 4 then
        if 4 ≤ digits.length % 4 + (pads + 1) then some digits else pythonSextets digits (pads + 1) rest
      else pythonSextets digits pads rest
    else
      match Base64.rawStd.sextet b with
      | some n => pythonSextets (digits ++ [n]) 0 rest
      | none => pythonSextets digits pads rest

def pythonDecode (s : Bytes) : Option Bytes := (pythonSextets [] 0 s).bind unpackSextets

lemma packBytes_lt {bytes : Bytes} {n : ℕ} (h : n ∈ packBytes bytes) : n < 64 := by
  induction bytes using packBytes.induct with
  | case1 => cases h
  | case2 a =>
    have ha := a.toNat_lt
    simp only [packBytes,List.mem_cons,List.not_mem_nil,or_false] at h
    omega
  | case3 a b =>
    have ha := a.toNat_lt
    have hb := b.toNat_lt
    simp only [packBytes,List.mem_cons,List.not_mem_nil,or_false] at h
    omega
  | case4 a b c rest ih =>
    have ha := a.toNat_lt
    have hb := b.toNat_lt
    have hc := c.toNat_lt
    simp only [packBytes,List.mem_cons] at h
    rcases h with h | h | h | h | h
    · omega
    · omega
    · omega
    · omega
    · exact ih h

lemma toUInt8_eq {n : ℕ} {b : UInt8} (h : n = b.toNat) : n.toUInt8 = b := by
  rw [h]
  exact UInt8.ofNat_toNat

variable (bytes : Bytes) (digits : List ℕ)

theorem unpackSextets_packBytes : unpackSextets (packBytes bytes) = some bytes := by
  induction bytes using packBytes.induct with
  | case1 => rfl
  | case2 a =>
    have ha := a.toNat_lt
    simp only [packBytes,unpackSextets]
    rw [toUInt8_eq (b := a) (by omega)]
  | case3 a b =>
    have ha := a.toNat_lt
    have hb := b.toNat_lt
    simp only [packBytes,unpackSextets]
    rw [toUInt8_eq (b := a) (by omega),toUInt8_eq (b := b) (by omega)]
  | case4 a b c rest ih =>
    have ha := a.toNat_lt
    have hb := b.toNat_lt
    have hc := c.toNat_lt
    simp only [packBytes,unpackSextets,ih,Option.map_some]
    rw [toUInt8_eq (b := a) (by omega),toUInt8_eq (b := b) (by omega),toUInt8_eq (b := c) (by omega)]

lemma packBytes_length_mod : (packBytes bytes).length % 4 ≠ 1 := by
  induction bytes using packBytes.induct with
  | case1 => decide
  | case2 a | case3 a b => simp [packBytes]
  | case4 a b c rest ih =>
    simp only [packBytes,List.length_cons]
    omega

lemma length_le_packBytes : bytes.length ≤ (packBytes bytes).length := by
  induction bytes using packBytes.induct with
  | case1 => exact Nat.le_refl 0
  | case2 a | case3 a b => simp [packBytes]
  | case4 a b c rest ih =>
    simp only [packBytes,List.length_cons]
    omega

lemma sextet_digit : ∀ n < 64, Base64.rawStd.sextet (Base64.rawStd.digit n) = some n := by decide

lemma digit_ne : ∀ n < 64, Base64.rawStd.digit n ≠ 10 ∧ Base64.rawStd.digit n ≠ 13 ∧
    Base64.rawStd.digit n ≠ 61 := by decide

lemma rawStd_encodeToString :
    Base64.rawStd.encodeToString bytes = (packBytes bytes).map Base64.rawStd.digit := by
  simp [Base64.encodeToString,Base64.rawStd]

lemma filterMap_digits {sextet : UInt8 → Option ℕ} {digits : List ℕ} (hlt : ∀ n ∈ digits, n < 64)
    (hsextet : ∀ n < 64, sextet (Base64.rawStd.digit n) = some n) :
    (digits.map Base64.rawStd.digit).filterMap sextet = digits := by
  rw [List.filterMap_map]
  induction digits with
  | nil => rfl
  | cons n digits ih =>
    rw [List.filterMap_cons,Function.comp_apply,hsextet n (hlt n (by simp))]
    exact congrArg (n :: ·) (ih fun m hm => hlt m (by simp [hm]))

theorem rawStd_decodeString :
    Base64.rawStd.decodeString (Base64.rawStd.encodeToString bytes) = some bytes := by
  have hlt : ∀ n ∈ packBytes bytes, n < 64 := fun n hn => packBytes_lt hn
  have hfilter : ((packBytes bytes).map Base64.rawStd.digit).filter (fun b => b != 10 && b != 13) =
      (packBytes bytes).map Base64.rawStd.digit := by
    refine List.filter_eq_self.mpr fun b hb => ?_
    obtain ⟨n,hn,rfl⟩ := List.mem_map.mp hb
    obtain ⟨h10,h13,-⟩ := digit_ne n (hlt n hn)
    simp [h10,h13]
  have hwhile : ((packBytes bytes).map Base64.rawStd.digit).takeWhile
      (fun b => (Base64.rawStd.sextet b).isSome) = (packBytes bytes).map Base64.rawStd.digit := by
    refine List.takeWhile_eq_self_iff.mpr fun b hb => ?_
    obtain ⟨n,hn,rfl⟩ := List.mem_map.mp hb
    rw [sextet_digit n (hlt n hn)]
    rfl
  rw [rawStd_encodeToString,Base64.decodeString]
  simp only [hfilter,hwhile,List.drop_length,filterMap_digits hlt sextet_digit,unpackSextets_packBytes]
  rfl

lemma trimPadding_digits (hlt : ∀ n ∈ digits, n < 64) (k : ℕ) :
    trimPadding (digits.map Base64.rawStd.digit ++ List.replicate k 61) = digits.map Base64.rawStd.digit := by
  unfold trimPadding
  rw [List.reverse_append,List.reverse_replicate]
  have hskip : ∀ k, (List.replicate k (61 : UInt8) ++ (digits.map Base64.rawStd.digit).reverse).dropWhile
      (· == 61) = (digits.map Base64.rawStd.digit).reverse.dropWhile (· == 61) := by
    intro k
    induction k with
    | zero => rfl
    | succ k ih => exact ih
  rw [hskip]
  cases hrev : (digits.map Base64.rawStd.digit).reverse with
  | nil =>
    rw [List.reverse_eq_nil_iff.mp hrev]
    rfl
  | cons b more =>
    have hb : b ∈ digits.map Base64.rawStd.digit := by
      rw [← List.mem_reverse,hrev]
      simp
    obtain ⟨n,hn,rfl⟩ := List.mem_map.mp hb
    have h61 := (digit_ne n (hlt n hn)).2.2
    rw [List.dropWhile_cons_of_neg (by simpa using h61),← hrev,List.reverse_reverse]

lemma trimPadding_std :
    trimPadding (Base64.std.encodeToString bytes) = Base64.rawStd.encodeToString bytes := by
  rw [rawStd_encodeToString]
  exact trimPadding_digits (packBytes bytes) (fun n hn => packBytes_lt hn) _

lemma trimPadding_rawStd :
    trimPadding (Base64.rawStd.encodeToString bytes) = Base64.rawStd.encodeToString bytes := by
  rw [rawStd_encodeToString]
  simpa using trimPadding_digits (packBytes bytes) (fun n hn => packBytes_lt hn) 0

lemma nodeSextet_digit : ∀ n < 64, nodeSextet (Base64.rawStd.digit n) = some n := by decide

theorem nodeDecode_padded (k : ℕ) :
    nodeDecode (Base64.rawStd.encodeToString bytes ++ List.replicate k 61) = bytes := by
  have hpad : (List.replicate k (61 : UInt8)).filterMap nodeSextet = [] := by
    rw [List.filterMap_replicate_of_none]
    decide
  have hdigits : (Base64.rawStd.encodeToString bytes ++ List.replicate k 61).filterMap nodeSextet =
      packBytes bytes := by
    rw [rawStd_encodeToString,List.filterMap_append,hpad,List.append_nil]
    exact filterMap_digits (fun n hn => packBytes_lt hn) nodeSextet_digit
  rw [nodeDecode,hdigits,if_neg (packBytes_length_mod bytes),List.take_length,unpackSextets_packBytes]
  rfl

lemma pythonSextets_digits (hlt : ∀ n ∈ digits, n < 64) (before : List ℕ) (pads : ℕ)
    (rest : Bytes) : pythonSextets before pads (digits.map Base64.rawStd.digit ++ rest) =
      pythonSextets (before ++ digits) (if digits = [] then pads else 0) rest := by
  induction digits generalizing before pads with
  | nil => simp
  | cons n digits ih =>
    have hn := hlt n (by simp)
    rw [List.map_cons,List.cons_append,pythonSextets,if_neg (digit_ne n hn).2.2,sextet_digit n hn]
    dsimp only
    rw [ih fun m hm => hlt m (by simp [hm])]
    simp

theorem pythonDecode_padded : pythonDecode (Base64.rawStd.encodeToString bytes ++
      List.replicate (paddingOf (Base64.rawStd.encodeToString bytes).length) 61) = some bytes := by
  have hmod := packBytes_length_mod bytes
  have hsextets : pythonSextets [] 0 (Base64.rawStd.encodeToString bytes ++
      List.replicate (paddingOf (Base64.rawStd.encodeToString bytes).length) 61) =
      some (packBytes bytes) := by
    rw [rawStd_encodeToString,List.length_map,pythonSextets_digits _ (fun n hn => packBytes_lt hn),
      List.nil_append,ite_self]
    have hcases : (packBytes bytes).length % 4 = 0 ∨ (packBytes bytes).length % 4 = 2 ∨
        (packBytes bytes).length % 4 = 3 := by omega
    rcases hcases with h | h | h
    · simp [paddingOf,h,pythonSextets]
    · simp [paddingOf,h,pythonSextets,List.replicate]
    · simp [paddingOf,h,pythonSextets]
  rw [pythonDecode,hsextets]
  exact unpackSextets_packBytes bytes

example : Base64.rawURL.decodeString (utf8 "eyJ4\n") = some (utf8 "\x7b\"x") := by decide

end Diverge.Text
