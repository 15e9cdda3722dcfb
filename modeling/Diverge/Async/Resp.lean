import Diverge.Text.Bytes
import Diverge.Text.Numbers
import Mathlib.Data.List.TakeDrop

/-! The replies of a Redis server, from the bytes of the connection. A reply is a value of the second
version of the protocol; the reader takes one value off the connection for each command. -/
namespace Diverge.Async.Resp
open Text

def cr : UInt8 := 13

def lf : UInt8 := 10

def crlf : Bytes := [cr,lf]

def ascii (cs : List Char) : Bytes := cs.map fun c => UInt8.ofNat c.toNat

def latin (bytes : Bytes) : String := String.ofList (bytes.map fun b => Char.ofNat b.toNat)

/-- What the reader returns for a reply: a string, an integer or a list. -/
inductive Value
  | text (bytes : Bytes)
  | int (n : ℤ)
  | list (items : List Value)

inductive RespError
  | reply (message : Bytes)
  | eof
  | unexpectedEOF
  | depth (depth : ℕ)
  | emptyLine
  | number (text : Bytes)
  | bulkLength (n : ℤ)
  | terminator
  | arrayLength (n : ℤ)
  | unsupported (b : UInt8)
  deriving DecidableEq

abbrev Read (α : Type) := Except RespError α × Bytes

def maxRESPBulkBytes : ℤ := 16 * 1024 * 1024

def maxRESPArrayLen : ℤ := 100000

def maxRESPDepth : ℕ := 8

/-- `strings.TrimSuffix` of a carriage return. -/
def trimCR (line : Bytes) : Bytes := if line.getLast? = some cr then line.dropLast else line

/-- `ReadString` up to the next line feed, without the end of the line. -/
def readLine (input : Bytes) : Read Bytes :=
  match input.span (· != lf) with
  | (_,[]) => (.error .eof,[])
  | (line,_ :: rest) => (.ok (trimCR line),rest)

/-- `strconv.ParseInt`, and `strconv.Atoi`. -/
def parseNumber (text : Bytes) : Except RespError ℤ := (parseInt (latin text)).elim (.error (.number text)) .ok

/-- `io.ReadFull` of some bytes and the end of the line after them. -/
def readBulk (length : ℕ) (input : Bytes) : Read Value :=
  if input = [] then (.error .eof,[])
  else if input.length < length + 2 then (.error .unexpectedEOF,[])
  else if (input.drop length).take 2 = crlf then (.ok (.text (input.take length)),input.drop (length + 2))
  else (.error .terminator,input.drop (length + 2))

/-- The loop over the items of an array; an error ends it. -/
def readItems (read : Bytes → Read Value) : ℕ → Bytes → Read (List Value)
  | 0,input => (.ok [],input)
  | n+1,input =>
    match read input with
    | (.error e,rest) => (.error e,rest)
    | (.ok v,rest) =>
      match readItems read n rest with
      | (.error e,rest') => (.error e,rest')
      | (.ok vs,rest') => (.ok (v :: vs),rest')

/-- The answer for a line that begins with a byte; `read` reads the items of an array. -/
def readPayload (read : Bytes → Read Value) (kind : UInt8) (text : Bytes) (rest : Bytes) : Read Value :=
  if kind = 43 then (.ok (.text text),rest)
  else if kind = 45 then (.error (.reply text),rest)
  else if kind = 58 then
    match parseNumber text with
    | .error e => (.error e,rest)
    | .ok n => (.ok (.int n),rest)
  else if kind = 36 then
    match parseNumber text with
    | .error e => (.error e,rest)
    | .ok n =>
      if n = -1 then (.ok (.text []),rest)
      else if n < -1 ∨ maxRESPBulkBytes < n then (.error (.bulkLength n),rest)
      else readBulk n.toNat rest
  else if kind = 42 then
    match parseNumber text with
    | .error e => (.error e,rest)
    | .ok n =>
      if n = -1 ∨ n = 0 then (.ok (.list []),rest)
      else if n < -1 ∨ maxRESPArrayLen < n then (.error (.arrayLength n),rest)
      else
        match readItems read n.toNat rest with
        | (.error e,rest') => (.error e,rest')
        | (.ok vs,rest') => (.ok (.list vs),rest')
  else (.error (.unsupported kind),rest)

def readLevels : ℕ → Bytes → Read Value
  | 0,input => (.error (.depth (maxRESPDepth + 1)),input)
  | n+1,input =>
    match readLine input with
    | (.error e,rest) => (.error e,rest)
    | (.ok [],rest) => (.error .emptyLine,rest)
    | (.ok (kind :: text),rest) => readPayload (readLevels n) kind text rest

def readRESPValueDepth (depth : ℕ) (input : Bytes) : Read Value := readLevels (maxRESPDepth + 1 - depth) input

def readRESPValue (input : Bytes) : Read Value := readRESPValueDepth 0 input

structure Conn where
  incoming : Bytes
  sent : Bytes := []
  deriving DecidableEq

def encodeCommand (args : List Bytes) : Bytes :=
  42 :: ascii (intText args.length) ++ crlf ++
    args.flatMap fun arg => 36 :: ascii (intText arg.length) ++ crlf ++ arg ++ crlf

def sendRESPCommand (args : List Bytes) (conn : Conn) : Except RespError Value × Conn :=
  let answer := readRESPValue conn.incoming
  (answer.1,⟨answer.2,conn.sent ++ encodeCommand args⟩)

/-- Commands one after the other, with their answers. -/
def sendAll : List (List Bytes) → Conn → List (Except RespError Value) × Conn
  | [],conn => ([],conn)
  | args :: rest,conn =>
    let first := sendRESPCommand args conn
    let others := sendAll rest first.2
    (first.1 :: others.1,others.2)

inductive Reply
  | simple (text : Bytes)
  | error (message : Bytes)
  | int (n : ℤ)
  | bulk (data : Bytes)
  | nullBulk
  | array (items : List Reply)
  | nullArray

def encodeLine (kind : UInt8) (text : Bytes) : Bytes := kind :: text ++ crlf

mutual

def Reply.encode : Reply → Bytes
  | .simple text => encodeLine 43 text
  | .error message => encodeLine 45 message
  | .int n => encodeLine 58 (ascii (intText n))
  | .bulk data => encodeLine 36 (ascii (intText data.length)) ++ (data ++ crlf)
  | .nullBulk => encodeLine 36 (ascii (intText (-1)))
  | .array items => encodeLine 42 (ascii (intText items.length)) ++ encodeAll items
  | .nullArray => encodeLine 42 (ascii (intText (-1)))

def encodeAll : List Reply → Bytes
  | [] => []
  | v :: vs => v.encode ++ encodeAll vs

end

mutual

/-- What a reply denotes: its value, or the first error in it. -/
def Reply.outcome : Reply → Except RespError Value
  | .simple text => .ok (.text text)
  | .error message => .error (.reply message)
  | .int n => .ok (.int n)
  | .bulk data => .ok (.text data)
  | .nullBulk => .ok (.text [])
  | .array items => (outcomes items).map Value.list
  | .nullArray => .ok (.list [])

def outcomes : List Reply → Except RespError (List Value)
  | [] => .ok []
  | v :: vs =>
    match v.outcome with
    | .error e => .error e
    | .ok value => (outcomes vs).map (value :: ·)

end

def OneLine (text : Bytes) : Prop := cr ∉ text ∧ lf ∉ text

/-- A reply with at most so many arrays around any of its parts, within the limits of the reader. -/
inductive Within : ℕ → Reply → Prop
  | simple {n : ℕ} {text : Bytes} (h : OneLine text) : Within n (.simple text)
  | error {n : ℕ} {message : Bytes} (h : OneLine message) : Within n (.error message)
  | int {n : ℕ} {x : ℤ} (hl : minInt64 ≤ x) (hu : x ≤ maxInt64) : Within n (.int x)
  | bulk {n : ℕ} {data : Bytes} (h : data.length ≤ maxRESPBulkBytes) : Within n (.bulk data)
  | nullBulk {n : ℕ} : Within n .nullBulk
  | array {n : ℕ} {items : List Reply} (h : items.length ≤ maxRESPArrayLen)
      (hitems : ∀ v ∈ items, Within n v) : Within (n+1) (.array items)
  | nullArray {n : ℕ} : Within n .nullArray

mutual

/-- Some part of the reply is an error. -/
def Reply.hasError : Reply → Bool
  | .error _ => true
  | .array items => anyError items
  | _ => false

def anyError : List Reply → Bool
  | [] => false
  | v :: vs => v.hasError || anyError vs

end

mutual

/-- No error in the reply has anything after it. -/
def Reply.InSync : Reply → Bool
  | .array items => endsInSync items
  | _ => true

def endsInSync : List Reply → Bool
  | [] => true
  | [v] => v.InSync
  | v :: w :: vs => !v.hasError && endsInSync (w :: vs)

end

mutual

def Reply.unread : Reply → List Reply
  | .array items => unreadAll items
  | _ => []

def unreadAll : List Reply → List Reply
  | [] => []
  | v :: vs => if v.hasError then v.unread ++ vs else unreadAll vs

end

section
variable {x : ℤ} {c : Char}

lemma numberChar (hc : c ∈ intText x) : c = '-' ∨ c.isDigit = true := by
  unfold intText at hc
  split_ifs at hc
  · rcases List.mem_cons.mp hc with rfl | hc
    · exact .inl rfl
    · exact .inr (toDigits_isDigit _ c hc)
  · exact .inr (toDigits_isDigit _ c hc)

lemma numberChar_lt (hc : c ∈ intText x) : 44 < c.toNat ∧ c.toNat < 58 := by
  rcases numberChar hc with rfl | hd
  · decide
  · rw [Char.isDigit_iff_toNat] at hd
    have h0 : '0'.toNat = 48 := rfl
    have h9 : '9'.toNat = 57 := rfl
    omega

lemma latin_ascii {cs : List Char} (h : ∀ c ∈ cs, c.toNat < 256) : latin (ascii cs) = String.ofList cs := by
  rw [latin,ascii,List.map_map]
  congr 1
  conv_rhs => rw [← List.map_id cs]
  apply List.map_congr_left
  intro c hc
  change Char.ofNat (UInt8.ofNat c.toNat).toNat = c
  rw [UInt8.toNat_ofNat',Nat.mod_eq_of_lt (h c hc),Char.ofNat_toNat]

lemma parseNumber_ascii (hl : minInt64 ≤ x) (hu : x ≤ maxInt64) :
    parseNumber (ascii (intText x)) = .ok x := by
  rw [parseNumber,latin_ascii fun c hc => by have := numberChar_lt hc; omega]
  change (parseInt (formatInt x)).elim _ _ = _
  rw [parseInt_formatInt hl hu]
  rfl

lemma lf_not_mem_number (x : ℤ) : lf ∉ ascii (intText x) := by
  intro h
  obtain ⟨c,hc,heq⟩ := List.mem_map.mp h
  have hrange := numberChar_lt hc
  have hval : (UInt8.ofNat c.toNat).toNat = lf.toNat := congrArg UInt8.toNat heq
  have hlf : lf.toNat = 10 := rfl
  rw [UInt8.toNat_ofNat',hlf] at hval
  omega

lemma trimCR_append (line : Bytes) : trimCR (line ++ [cr]) = line := by
  simp [trimCR]

lemma readLine_append {line : Bytes} (h : lf ∉ line) (rest : Bytes) :
    readLine (line ++ crlf ++ rest) = (.ok line,rest) := by
  have hspan : (line ++ crlf ++ rest).span (· != lf) = (line ++ [cr],lf :: rest) := by
    rw [List.span_eq_takeWhile_dropWhile]
    have hall : ∀ b ∈ line ++ [cr], (b != lf) = true := by
      intro b hb
      rcases List.mem_append.mp hb with hb | hb
      · simpa using fun heq : b = lf => h (heq ▸ hb)
      · rw [List.mem_singleton.mp hb]
        decide
    have hsplit : line ++ crlf ++ rest = (line ++ [cr]) ++ lf :: rest := by simp [crlf]
    rw [hsplit,List.takeWhile_append_of_pos hall,List.dropWhile_append_of_pos hall]
    simp
  rw [readLine,hspan]
  simp [trimCR_append]

lemma readLevels_line {kind : UInt8} {text : Bytes} (hkind : kind ≠ lf) (h : lf ∉ text) (n : ℕ) (rest : Bytes) :
    readLevels (n+1) (encodeLine kind text ++ rest) = readPayload (readLevels n) kind text rest := by
  have hline : lf ∉ kind :: text := by
    intro hmem
    rcases List.mem_cons.mp hmem with heq | hmem
    · exact hkind heq.symm
    · exact h hmem
  rw [readLevels,encodeLine,readLine_append hline]

end

mutual

lemma Reply.hasError_iff : ∀ v : Reply, v.hasError = true ↔ ∃ e, v.outcome = .error e
  | .simple _ | .error _ | .int _ | .bulk _ | .nullBulk | .nullArray => by
    simp [Reply.hasError,Reply.outcome]
  | .array items => by
    rw [Reply.hasError,Reply.outcome,anyError_iff items]
    cases outcomes items <;> simp [Except.map]

lemma anyError_iff : ∀ vs : List Reply, anyError vs = true ↔ ∃ e, outcomes vs = .error e
  | [] => by simp [anyError,outcomes]
  | v :: vs => by
    rw [anyError,Bool.or_eq_true,v.hasError_iff,anyError_iff vs,outcomes]
    cases v.outcome with
    | error e => simp
    | ok value => cases outcomes vs <;> simp [Except.map]

end

mutual

lemma Reply.inSync_of_clean : ∀ v : Reply, v.hasError = false → v.InSync = true
  | .simple _ | .error _ | .int _ | .bulk _ | .nullBulk | .nullArray => fun _ => by
    simp [Reply.InSync]
  | .array items => fun h => by
    rw [Reply.InSync]
    exact endsInSync_of_clean items (by simpa [Reply.hasError] using h)

lemma endsInSync_of_clean : ∀ vs : List Reply, anyError vs = false → endsInSync vs = true
  | [] => fun _ => by simp [endsInSync]
  | [v] => fun h => by
    rw [endsInSync]
    exact v.inSync_of_clean (by simpa [anyError] using h)
  | v :: w :: vs => fun h => by
    rw [anyError,Bool.or_eq_false_iff] at h
    rw [endsInSync,h.1,endsInSync_of_clean (w :: vs) h.2]
    rfl

end

mutual

lemma Reply.unread_eq_nil_iff : ∀ v : Reply, v.unread = [] ↔ v.InSync = true
  | .simple _ | .error _ | .int _ | .bulk _ | .nullBulk | .nullArray => by
    simp [Reply.unread,Reply.InSync]
  | .array items => by
    rw [Reply.unread,Reply.InSync]
    exact unreadAll_eq_nil_iff items

lemma unreadAll_eq_nil_iff : ∀ vs : List Reply, unreadAll vs = [] ↔ endsInSync vs = true
  | [] => by simp [unreadAll,endsInSync]
  | [v] => by
    rw [unreadAll,endsInSync]
    cases herr : v.hasError with
    | true => simpa using v.unread_eq_nil_iff
    | false => simp [unreadAll,v.inSync_of_clean herr]
  | v :: w :: vs => by
    rw [unreadAll,endsInSync]
    cases v.hasError with
    | true => simp
    | false => simpa using unreadAll_eq_nil_iff (w :: vs)

end

section
variable {n : ℕ} {v : Reply} {items : List Reply}

lemma encodeAll_append (vs ws : List Reply) : encodeAll (vs ++ ws) = encodeAll vs ++ encodeAll ws := by
  induction vs with
  | nil => simp [encodeAll]
  | cons v vs ih => simp [encodeAll,ih]

lemma readBulk_append (data rest : Bytes) :
    readBulk data.length (data ++ crlf ++ rest) = (.ok (.text data),rest) := by
  have hne : data ++ crlf ++ rest ≠ [] := by simp [crlf]
  have hlen : ¬(data ++ crlf ++ rest).length < data.length + 2 := by simp [crlf]
  have htake : ((data ++ crlf ++ rest).drop data.length).take 2 = crlf := by simp [crlf]
  rw [readBulk,if_neg hne,if_neg hlen,if_pos htake]
  simp [crlf]

lemma readItems_encodeAll {read : Bytes → Read Value}
    (h : ∀ v ∈ items, ∀ rest, read (v.encode ++ rest) = (v.outcome,encodeAll v.unread ++ rest)) (rest : Bytes) :
    readItems read items.length (encodeAll items ++ rest) =
      (outcomes items,encodeAll (unreadAll items) ++ rest) := by
  induction items with
  | nil => simp [readItems,encodeAll,outcomes,unreadAll]
  | cons v vs ih =>
    have hv := h v List.mem_cons_self (encodeAll vs ++ rest)
    have hvs := ih fun w hw => h w (List.mem_cons_of_mem v hw)
    rw [List.length_cons,readItems,encodeAll,List.append_assoc,hv,outcomes,unreadAll]
    cases hout : v.outcome with
    | error e =>
      have herr : v.hasError = true := v.hasError_iff.mpr ⟨e,hout⟩
      simp [herr,encodeAll_append]
    | ok value =>
      have hclean : v.hasError = false := by
        by_contra herr
        obtain ⟨e,he⟩ := v.hasError_iff.mp (by simpa using herr)
        simp [hout] at he
      have hnone : v.unread = [] := v.unread_eq_nil_iff.mpr (v.inSync_of_clean hclean)
      simp only [hnone,encodeAll,List.nil_append,hvs,hclean,Bool.false_eq_true,if_false]
      cases outcomes vs <;> rfl

lemma Within.mono {m : ℕ} (h : Within n v) (hle : n ≤ m) : Within m v := by
  induction h generalizing m with
  | simple h => exact .simple h
  | error h => exact .error h
  | int hl hu => exact .int hl hu
  | bulk h => exact .bulk h
  | nullBulk => exact .nullBulk
  | nullArray => exact .nullArray
  | array h hitems ih =>
    obtain ⟨m,rfl⟩ : ∃ k, m = k + 1 := ⟨m - 1,by omega⟩
    exact .array h fun w hw => ih w hw (by omega)

lemma mem_unreadAll {w : Reply} (h : w ∈ unreadAll items) : w ∈ items ∨ ∃ v ∈ items, w ∈ v.unread := by
  induction items with
  | nil => simp [unreadAll] at h
  | cons v vs ih =>
    rw [unreadAll] at h
    split_ifs at h
    · rcases List.mem_append.mp h with h | h
      · exact .inr ⟨v,List.mem_cons_self,h⟩
      · exact .inl (List.mem_cons_of_mem v h)
    · rcases ih h with h | ⟨u,hu,h⟩
      · exact .inl (List.mem_cons_of_mem v h)
      · exact .inr ⟨u,List.mem_cons_of_mem v hu,h⟩

lemma Within.unread (h : Within n v) : ∀ w ∈ v.unread, Within n w := by
  induction h with
  | array h hitems ih =>
    intro w hw
    rw [Reply.unread] at hw
    rcases mem_unreadAll hw with hw | ⟨u,hu,hw⟩
    · exact (hitems w hw).mono (Nat.le_succ _)
    · exact (ih u hu w hw).mono (Nat.le_succ _)
  | _ => simp [Reply.unread]

lemma readLevels_encode (h : Within n v) (rest : Bytes) :
    readLevels (n+1) (v.encode ++ rest) = (v.outcome,encodeAll v.unread ++ rest) := by
  induction h generalizing rest with
  | simple h | error h =>
    rw [Reply.encode,readLevels_line (by decide) h.2]
    simp [readPayload,Reply.outcome,Reply.unread,encodeAll]
  | int hl hu =>
    rw [Reply.encode,readLevels_line (by decide) (lf_not_mem_number _)]
    simp [readPayload,parseNumber_ascii hl hu,Reply.outcome,Reply.unread,encodeAll]
  | @bulk n data h =>
    have hnumber : parseNumber (ascii (intText data.length)) = .ok (data.length : ℤ) :=
      parseNumber_ascii (by unfold minInt64; omega) (h.trans (by decide))
    have hlow : ¬(data.length : ℤ) = -1 := by omega
    have hlimit : ¬((data.length : ℤ) < -1 ∨ maxRESPBulkBytes < data.length) := by omega
    rw [Reply.encode,List.append_assoc,readLevels_line (by decide) (lf_not_mem_number _)]
    simp only [readPayload,hnumber,hlow,hlimit,Int.toNat_natCast,Reply.outcome,Reply.unread,encodeAll]
    exact readBulk_append data rest
  | nullBulk | nullArray =>
    rw [Reply.encode,readLevels_line (by decide) (lf_not_mem_number _)]
    simp [readPayload,parseNumber_ascii (by decide : minInt64 ≤ -1) (by decide),Reply.outcome,Reply.unread,
      encodeAll]
  | @array n items h hitems ih =>
    have hnumber : parseNumber (ascii (intText items.length)) = .ok (items.length : ℤ) :=
      parseNumber_ascii (by unfold minInt64; omega) (h.trans (by decide))
    have hall := readItems_encodeAll ih rest
    rw [Reply.encode,List.append_assoc,readLevels_line (by decide) (lf_not_mem_number _)]
    cases items with
    | nil =>
      have hzero : parseNumber (ascii (intText 0)) = .ok 0 := hnumber
      simp [readPayload,hzero,Reply.outcome,outcomes,Reply.unread,unreadAll,encodeAll,Except.map]
    | cons w ws =>
      have hpos : ¬(((w :: ws).length : ℤ) = -1 ∨ ((w :: ws).length : ℤ) = 0) := by
        rw [List.length_cons]
        omega
      have hlimit : ¬(((w :: ws).length : ℤ) < -1 ∨ maxRESPArrayLen < (w :: ws).length) := by omega
      unfold readPayload
      rw [hnumber]
      dsimp only
      rw [if_neg hpos,if_neg hlimit,Int.toNat_natCast,hall,Reply.outcome,Reply.unread]
      cases outcomes (w :: ws) <;> simp [Except.map]

end

def drain : ℕ → List Reply → List (Except RespError Value) × List Reply
  | 0,stream => ([],stream)
  | _+1,[] => ([],[])
  | n+1,v :: vs => (v.outcome :: (drain n (v.unread ++ vs)).1,(drain n (v.unread ++ vs)).2)

lemma le_drain_length (n : ℕ) (stream : List Reply) : stream.length ≤ (drain n stream).2.length + n := by
  induction n generalizing stream with
  | zero => simp [drain]
  | succ n ih =>
    cases stream with
    | nil => simp [drain]
    | cons v vs =>
      have hlen := ih (v.unread ++ vs)
      rw [List.length_append] at hlen
      simp only [drain,List.length_cons]
      omega

lemma drain_eq_iff (replies : List Reply) :
    drain replies.length replies = (replies.map Reply.outcome,[]) ↔ ∀ v ∈ replies, v.unread = [] := by
  induction replies with
  | nil => simp [drain]
  | cons v vs ih =>
    rw [List.forall_mem_cons]
    constructor
    · intro h
      have hleft := congrArg Prod.snd h
      have hlen := le_drain_length vs.length (v.unread ++ vs)
      simp only [drain,List.length_cons] at hleft
      rw [hleft,List.length_append,List.length_nil] at hlen
      have hnone : v.unread = [] := List.eq_nil_of_length_eq_zero (by omega)
      simp only [drain,List.length_cons,hnone,List.nil_append,List.map_cons,Prod.mk.injEq,List.cons.injEq,
        true_and] at h
      exact ⟨hnone,ih.mp (Prod.ext h.1 h.2)⟩
    · rintro ⟨hnone,hall⟩
      simp [drain,hnone,ih.mpr hall]

lemma encode_ne_nil (v : Reply) : v.encode ≠ [] := by
  cases v <;> simp [Reply.encode,encodeLine]

lemma encodeAll_eq_nil_iff (vs : List Reply) : encodeAll vs = [] ↔ vs = [] := by
  cases vs with
  | nil => simp [encodeAll]
  | cons v vs => simp [encodeAll,encode_ne_nil]

lemma readRESPValue_encode {v : Reply} (h : Within maxRESPDepth v) (rest : Bytes) :
    readRESPValue (v.encode ++ rest) = (v.outcome,encodeAll v.unread ++ rest) := readLevels_encode h rest

lemma sendAll_drain (commands : List (List Bytes)) {stream : List Reply}
    (hstream : ∀ v ∈ stream, Within maxRESPDepth v) (hlen : commands.length ≤ stream.length) (rest sent : Bytes) :
    (sendAll commands ⟨encodeAll stream ++ rest,sent⟩).1 = (drain commands.length stream).1 ∧
      (sendAll commands ⟨encodeAll stream ++ rest,sent⟩).2.incoming =
        encodeAll (drain commands.length stream).2 ++ rest := by
  induction commands generalizing stream sent with
  | nil => exact ⟨rfl,rfl⟩
  | cons args commands ih =>
    cases stream with
    | nil => simp at hlen
    | cons v vs =>
      have hread := readRESPValue_encode (hstream v List.mem_cons_self) (encodeAll vs ++ rest)
      have hnext : ∀ w ∈ v.unread ++ vs, Within maxRESPDepth w := by
        intro w hw
        rcases List.mem_append.mp hw with hw | hw
        · exact (hstream v List.mem_cons_self).unread w hw
        · exact hstream w (List.mem_cons_of_mem v hw)
      have hle : commands.length ≤ (v.unread ++ vs).length := by
        rw [List.length_append]
        rw [List.length_cons,List.length_cons] at hlen
        omega
      have hrest := ih hnext hle (sent ++ encodeCommand args)
      rw [encodeAll_append,List.append_assoc] at hrest
      simp only [sendAll,sendRESPCommand,encodeAll,List.append_assoc,hread,drain,List.length_cons]
      exact ⟨by rw [hrest.1],hrest.2⟩

/-- The commands of a session each get their own reply, with nothing left on the connection but what came
after the replies, exactly when no error in a reply has anything after it. -/
theorem replies_attributed_iff (commands : List (List Bytes)) (replies : List Reply)
    (hreplies : ∀ v ∈ replies, Within maxRESPDepth v) (hlen : commands.length = replies.length) (rest sent : Bytes) :
    ((sendAll commands ⟨encodeAll replies ++ rest,sent⟩).1 = replies.map Reply.outcome ∧
        (sendAll commands ⟨encodeAll replies ++ rest,sent⟩).2.incoming = rest) ↔
      ∀ v ∈ replies, v.InSync = true := by
  obtain ⟨hanswers,hincoming⟩ := sendAll_drain commands hreplies hlen.le rest sent
  rw [hanswers,hincoming,hlen,List.append_left_eq_self,encodeAll_eq_nil_iff]
  constructor
  · rintro ⟨hfst,hsnd⟩ v hv
    exact v.unread_eq_nil_iff.mp ((drain_eq_iff replies).mp (Prod.ext hfst hsnd) v hv)
  · intro hall
    rw [(drain_eq_iff replies).mpr fun v hv => v.unread_eq_nil_iff.mpr (hall v hv)]
    exact ⟨rfl,rfl⟩

def failedLast : Reply := .array [.int 1,.error (ascii "ERR".toList)]

def failedFirst : Reply := .array [.error (ascii "ERR".toList),.int 1]

def ping : List Bytes := [ascii "PING".toList]

def exec : List Bytes := [ascii "EXEC".toList]

def pong : Reply := .simple (ascii "PONG".toList)

theorem error_at_the_end_in_sync :
    (sendAll [exec,ping] ⟨encodeAll [failedLast,pong] ++ [],[]⟩).1 = [failedLast.outcome,pong.outcome] ∧
      (sendAll [exec,ping] ⟨encodeAll [failedLast,pong] ++ [],[]⟩).2.incoming = [] := by
  refine (replies_attributed_iff [exec,ping] [failedLast,pong] ?_ rfl [] []).mpr (by decide)
  have hpong : Within maxRESPDepth pong := .simple ⟨by decide,by decide⟩
  have hint : Within 7 (.int 1) := .int (by decide) (by decide)
  have herror : Within 7 (.error (ascii "ERR".toList)) := .error ⟨by decide,by decide⟩
  have hfailed : Within maxRESPDepth failedLast :=
    .array (by decide) (List.forall_mem_cons.mpr ⟨hint,List.forall_mem_singleton.mpr herror⟩)
  simp [hpong,hfailed]

/-- The command after a transaction whose first command failed gets a part of its reply. -/
theorem error_at_the_start_out_of_sync : (sendAll [exec,ping] ⟨encodeAll [failedFirst,pong],[]⟩).1 =
        [.error (.reply (ascii "ERR".toList)),.ok (.int 1)] ∧
      (sendAll [exec,ping] ⟨encodeAll [failedFirst,pong],[]⟩).2.incoming = pong.encode := ⟨rfl,rfl⟩

end Diverge.Async.Resp
