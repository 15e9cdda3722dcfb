import Diverge.Replay.Values

/-! The comparison of two answers as a whole: which protocol it takes them for, and how it decodes
them. What the libraries decode is a parameter: the end of a Connect stream, and a JSON value, even
before an error. No descriptors are given. -/
namespace Diverge.Replay
open Text

inductive Protocol
  | json
  | protobuf
  | text
  | empty
  deriving DecidableEq

def isProtobufContentType (contentType : String) : Bool :=
  let mediaType := normalizeMediaType contentType
  ["application/proto","application/x-protobuf","application/protobuf","application/vnd.google.protobuf",
    "application/grpc","application/grpc+proto","application/grpc-web","application/grpc-web+proto",
    "application/connect+proto"].contains mediaType ||
    hasSuffix mediaType "+proto" || hasSuffix mediaType "+protobuf"

def isJSONContentType (contentType : String) : Bool :=
  let mediaType := normalizeMediaType contentType
  mediaType == "application/json" || mediaType == "text/json" || hasSuffix mediaType "+json"

def isFramedJSONContentType (contentType : String) : Bool :=
  ["application/connect+json","application/grpc-web+json","application/grpc+json"].contains
    (normalizeMediaType contentType)

def isExplicitTextContentType (contentType : String) : Bool :=
  hasPrefix (normalizeMediaType contentType) "text/" && normalizeMediaType contentType != "text/json"

/-- A brace or a bracket after white space. -/
def looksLikeJSON (data : Bytes) : Bool :=
  (ByteStrings.trimSpace data).head?.any fun b => b == 123 || b == 91

section
variable (isPrint : Char → Bool) (parseError : Bytes → String)
  (endStream : Bytes → Except String (Option (Bytes × Bytes))) (decodeJSON : Bytes → Json × Option String)

def isFramedConnectJSONPayload (contentType : String) (raw : Bytes) : Bool :=
  raw != [] && (isFramedJSONContentType contentType && !looksLikeJSON raw ||
    hasValidEnvelopeFrameSequence raw &&
      (unwrapJSONEnvelopeFrames endStream raw).toOption.any fun r => r.1.head?.any looksLikeJSON)

def decodeValue (data : Bytes) : Except String Json :=
  match decodeJSON data with
  | (_,some e) => .error e
  | (v,none) => .ok v

def extractFrames (contentType : String) (body : Bytes) : Except String (List Json × Bytes) :=
  if isFramedConnectJSONPayload endStream contentType body || hasValidEnvelopeFrameSequence body then
    unwrapJSONEnvelopeFrames endStream body >>= fun r =>
      (r.1.zipIdx.mapM fun f => (decodeValue decodeJSON f.1).mapError fun e =>
        "frame " ++ toString f.2 ++ " invalid JSON: " ++ e).map fun values => (values,r.2)
  else if ByteStrings.trimSpace body = [] then .ok ([],ok)
  else (decodeValue decodeJSON body).map fun v => ([v],ok)

def errorOf {α : Type} : Except String α → Option String
  | .error e => some e
  | .ok _ => none

/-- One error for each side that cannot be decoded, next to what the other side is. -/
def decodeErrors (path label : String) (baseErr prevErr : Option String) (baseText prevText : String) :
    List ContractDiff :=
  (baseErr.map fun e => ⟨⟨.decodeError,utf8 (label ++ e),utf8 prevText,true⟩,path⟩).toList ++
    (prevErr.map fun e => ⟨⟨.decodeError,utf8 baseText,utf8 (label ++ e),true⟩,path⟩).toList

def statusDiff (path : String) (base prev : Bytes) : List ContractDiff :=
  if base ≠ prev then [⟨⟨.statusMismatch,base,prev,true⟩,path⟩] else []

def Items.ofList : List Json → Items
  | [] => .nil
  | v :: vs => .cons v (Items.ofList vs)

/-- Streams of one value are compared by it, others as arrays. -/
def streamValue : List Json → Json
  | [v] => v
  | vs => .array (Items.ofList vs)

def compareFramedJSONPayloads (baseContentType prevContentType : String) (baseBody prevBody : Bytes)
    (opts : DiffOptions) : List ContractDiff :=
  match extractFrames endStream decodeJSON baseContentType baseBody,
    extractFrames endStream decodeJSON prevContentType prevBody with
  | .ok (base,baseTrailer),.ok (prev,prevTrailer) =>
    (if base.length = 1 ∧ prev.length = 1 then
      diffJSONValues isPrint opts "$" (streamValue base) (streamValue prev)
    else if base ≠ [] ∨ prev ≠ [] then
      diffJSONValues isPrint opts "$" (.array (Items.ofList base)) (.array (Items.ofList prev))
    else []) ++ statusDiff "$.rpc_status" baseTrailer prevTrailer
  | base,prev => decodeErrors "$" "invalid Connect JSON envelope: " (errorOf base) (errorOf prev) "valid" "valid"

def compareJSONPayloads (baseContentType prevContentType : String) (baseBody prevBody : Bytes)
    (opts : DiffOptions) : List ContractDiff :=
  if isFramedConnectJSONPayload endStream baseContentType baseBody ||
      isFramedConnectJSONPayload endStream prevContentType prevBody then
    compareFramedJSONPayloads isPrint endStream decodeJSON baseContentType prevContentType baseBody prevBody opts
  else
    match decodeJSON baseBody,decodeJSON prevBody with
    | (base,none),(prev,none) => diffJSONValues isPrint opts "$" base prev
    | (base,baseErr),(prev,prevErr) =>
      decodeErrors "$" "invalid JSON: " baseErr prevErr (describeJSONType base) (describeJSONType prev)

def compareProtobufPayloads (baseContentType prevContentType : String) (baseBody prevBody : Bytes)
    (opts : DiffOptions) : List ContractDiff :=
  match unwrapEnvelopeFrames endStream baseContentType baseBody,
    unwrapEnvelopeFrames endStream prevContentType prevBody with
  | .ok (baseRaw,baseTrailer),.ok (prevRaw,prevTrailer) =>
    match parseProtoWireMessage isPrint parseError baseRaw,parseProtoWireMessage isPrint parseError prevRaw with
    | .ok base,.ok prev => diffProtoWireMessages opts "proto" base prev ++
        statusDiff "proto.rpc_status" baseTrailer prevTrailer
    | base,prev => decodeErrors "proto" "invalid protobuf wire payload: " (errorOf base) (errorOf prev) "valid" "valid"
  | base,prev => decodeErrors "proto" "" (errorOf base) (errorOf prev) "ok" "ok"

def wireMessage (body : Bytes) : Bool :=
  body != [] && (parseProtoWireMessage isPrint parseError body).toOption.any fun fields : List _ => !fields.isEmpty

def selectProtocol (baseContentType prevContentType : String) (baseBody prevBody : Bytes) (opts : DiffOptions) :
    Protocol :=
  let protobuf := isProtobufContentType baseContentType || isProtobufContentType prevContentType
  let framedJSON := isFramedConnectJSONPayload endStream baseContentType baseBody ||
    isFramedConnectJSONPayload endStream prevContentType prevBody
  if ByteStrings.trimSpace baseBody = [] ∧ ByteStrings.trimSpace prevBody = [] ∧ !protobuf then .empty
  else if protobuf || opts.protoMessage != "" && !looksLikeJSON baseBody && !looksLikeJSON prevBody && !framedJSON
  then .protobuf
  else if isJSONContentType baseContentType || isJSONContentType prevContentType || framedJSON ||
      looksLikeJSON baseBody && looksLikeJSON prevBody then .json
  else if !isExplicitTextContentType baseContentType && !isExplicitTextContentType prevContentType &&
      (wireMessage isPrint parseError baseBody && (prevBody == [] || wireMessage isPrint parseError prevBody) ||
        baseBody == [] && wireMessage isPrint parseError prevBody) then .protobuf
  else .text

def comparePayloads (baseContentType prevContentType : String) (baseBody prevBody : Bytes) (opts : DiffOptions) :
    Protocol × List ContractDiff :=
  let protocol := selectProtocol isPrint parseError endStream baseContentType prevContentType baseBody prevBody opts
  (protocol,match protocol with
    | .json => compareJSONPayloads isPrint endStream decodeJSON baseContentType prevContentType baseBody prevBody opts
    | .protobuf =>
      compareProtobufPayloads isPrint parseError endStream baseContentType prevContentType baseBody prevBody opts
    | .text =>
      let base := ByteStrings.trimSpace baseBody
      let prev := ByteStrings.trimSpace prevBody
      if opts.compareValues ∧ base ≠ prev then
        [⟨⟨.valueMismatch,truncateSample base 80,truncateSample prev 80,true⟩,"$"⟩]
      else []
    | .empty => [])

def decodes (contentType : String) (body : Bytes) : Protocol → Bool
  | .json =>
    if isFramedConnectJSONPayload endStream contentType body then
      (extractFrames endStream decodeJSON contentType body).isOk
    else (decodeJSON body).2.isNone
  | .protobuf => (unwrapEnvelopeFrames endStream contentType body).toOption.any fun r =>
      (parseProtoWireMessage isPrint parseError r.1).isOk
  | _ => true

end

section
variable {isPrint : Char → Bool} {opts : Strictness} {I : List String} {α β κ : Type}

lemma report_nothing (path : String) : (ignoring I).report path [] [] = [] := by
  unfold ignoring
  dsimp only
  split_ifs <;> rfl

lemma alongside_self {f : α → String → α → List ContractDiff} {vs : List α}
    (hf : ∀ v ∈ vs, ∀ path, f v path v = []) (compareValues : Bool) (path : String) :
    alongside compareValues path (vs.map f) vs = [] := by
  have hdrop : vs.drop (vs.map f).length = [] := by simp
  rw [alongside,hdrop,List.append_eq_nil_iff,List.flatMap_eq_nil_iff]
  constructor
  · intro c hc
    have hzip := List.fst_mem_of_mem_zipIdx hc
    rw [List.zip_map_left,List.mem_map] at hzip
    obtain ⟨⟨v,w⟩,hvw,hc⟩ := hzip
    rw [← hc]
    obtain rfl : v = w := by
      rw [← List.map_id vs,List.zip_map'] at hvw
      obtain ⟨u,-,huw⟩ := List.mem_map.mp hvw
      rw [← (Prod.mk.inj huw).1,← (Prod.mk.inj huw).2]
    exact hf v (List.of_mem_zip hvw).1 _
  · split_ifs
    · rfl
    · cases vs <;> rfl

lemma diffKeys_self [DecidableEq κ] [LE κ] [DecidableLE κ] {keyPath : κ → String} {describeBase : β → String}
    {describePrev : α → String} {both : κ → β → α → List Finding × List ContractDiff} (g : α → β)
    {base : List (κ × β)} {prev : List (κ × α)} (hbase : base = prev.map (Prod.map id g))
    (hboth : ∀ x ∈ prev, both x.1 (g x.2) x.2 = ([],[])) :
    diffKeys opts (ignoring I) keyPath describeBase describePrev both base prev = [] := by
  rw [diffKeys,List.flatMap_eq_nil_iff,hbase]
  intro k _
  rw [lookup_map_snd]
  cases hx : prev.lookup k with
  | none => rfl
  | some x =>
    have hnothing := hboth (k,x) (mem_of_lookup hx)
    rw [Option.map_some,diffEntry]
    dsimp only at hnothing
    rw [hnothing]
    exact report_nothing _

mutual
theorem Json.walk_self : (b : Json) → ∀ path, b.walk isPrint opts (ignoring I) path b = []
  | .null,path => by simp [Json.walk,scalarFindings,valueFinding,report_nothing]
  | .bool _,path => by simp [Json.walk,scalarFindings,valueFinding,report_nothing]
  | .number _,path => by simp [Json.walk,scalarFindings,valueFinding,report_nothing]
  | .string _,path => by simp [Json.walk,scalarFindings,valueFinding,report_nothing]
  | .array base,path => by
    have hcount : countFinding opts "len" base.toList.length base.toList.length = [] := by simp [countFinding]
    rw [Json.walk,base.walks_eq,alongside_self base.walks_self,List.length_map,hcount,report_nothing]
  | .object base,path => by
    rw [Json.walk,diffKeys_self _ base.walks_eq,report_nothing]
    exact fun x hx => Prod.ext_iff.mpr ⟨rfl,base.walks_self x hx _⟩

theorem Items.walks_self : (base : Items) → ∀ b ∈ base.toList, ∀ path, b.walk isPrint opts (ignoring I) path b = []
  | .nil => fun _ h => absurd h List.not_mem_nil
  | .cons head tail => List.forall_mem_cons.mpr ⟨head.walk_self,tail.walks_self⟩

theorem Members.walks_self : (base : Members) → ∀ b ∈ base.toList, ∀ path,
    b.2.walk isPrint opts (ignoring I) path b.2 = []
  | .nil => fun _ h => absurd h List.not_mem_nil
  | .cons _ value rest => List.forall_mem_cons.mpr ⟨value.walk_self,rest.walks_self⟩
end

lemma Fields.walk_self (k : ℕ) (path : String) (m : Fields k) : Fields.walk opts (ignoring I) k path m m = [] := by
  induction k generalizing path with
  | zero => rfl
  | succ k ih =>
    have hnested : ∀ path (b : WireField (Fields k)),
        nestedDiffs opts (Fields.walk opts (ignoring I) k) path b b = [] := by
      intro path b
      unfold nestedDiffs
      split_ifs with hboth hone
      · obtain ⟨n,hn⟩ := List.length_eq_one_iff.mp hone.1
        rw [hn]
        simpa using ih path n
      · exact alongside_self (fun n _ path => ih path n) _ _
      · rfl
    refine diffKeys_self id (by rw [Prod.map_id]; exact (List.map_id _).symm) fun x _ => ?_
    simp [hnested,fieldFindings,countFinding,valueFinding]

end

variable {isPrint : Char → Bool} {parseError : Bytes → String}
  {endStream : Bytes → Except String (Option (Bytes × Bytes))} {decodeJSON : Bytes → Json × Option String}
  {contentType : String} {body : Bytes}

/-- Nothing is reported, or what cannot be decoded and only that. -/
def Clean (decoded : Bool) (diffs : List ContractDiff) : Prop :=
  diffs = [] ∨ decoded = false ∧ ∀ d ∈ diffs, d.kind = .decodeError

lemma decodeErrors_kind (path label : String) (baseErr prevErr : Option String) (baseText prevText : String) :
    ∀ d ∈ decodeErrors path label baseErr prevErr baseText prevText, d.kind = .decodeError := by
  rw [decodeErrors]
  cases baseErr <;> cases prevErr <;> simp

lemma statusDiff_self (path : String) (status : Bytes) : statusDiff path status status = [] := by simp [statusDiff]

variable (opts : DiffOptions)

lemma compareFramedJSONPayloads_clean : Clean (extractFrames endStream decodeJSON contentType body).isOk
      (compareFramedJSONPayloads isPrint endStream decodeJSON contentType contentType body body opts) := by
  unfold compareFramedJSONPayloads
  cases extractFrames endStream decodeJSON contentType body with
  | error e => exact .inr ⟨rfl,decodeErrors_kind _ _ _ _ _ _⟩
  | ok r =>
    refine .inl ?_
    dsimp only
    rw [statusDiff_self,List.append_nil]
    split_ifs
    · exact Json.walk_self _ _
    · exact Json.walk_self _ _
    · rfl

lemma compareJSONPayloads_clean :
    Clean (decodes isPrint parseError endStream decodeJSON contentType body .json)
      (compareJSONPayloads isPrint endStream decodeJSON contentType contentType body body opts) := by
  unfold compareJSONPayloads decodes
  rw [Bool.or_self]
  cases isFramedConnectJSONPayload endStream contentType body with
  | true => exact compareFramedJSONPayloads_clean opts
  | false =>
    rcases decodeJSON body with ⟨v,_ | e⟩
    · exact .inl (Json.walk_self v "$")
    · exact .inr ⟨rfl,decodeErrors_kind _ _ _ _ _ _⟩

lemma compareProtobufPayloads_clean :
    Clean (decodes isPrint parseError endStream decodeJSON contentType body .protobuf)
      (compareProtobufPayloads isPrint parseError endStream contentType contentType body body opts) := by
  unfold compareProtobufPayloads decodes
  cases unwrapEnvelopeFrames endStream contentType body with
  | error e => exact .inr ⟨rfl,decodeErrors_kind _ _ _ _ _ _⟩
  | ok r =>
    obtain ⟨raw,trailer⟩ := r
    dsimp only
    rw [Except.toOption,Option.any_some]
    cases parseProtoWireMessage isPrint parseError raw with
    | error e => exact .inr ⟨rfl,decodeErrors_kind _ _ _ _ _ _⟩
    | ok fields =>
      refine .inl ?_
      dsimp only
      rw [statusDiff_self,List.append_nil]
      exact Fields.walk_self 6 "proto" fields

/-- Whatever an answer is, its comparison with itself reports decoding errors only, and nothing where it
can be decoded as what it is taken for. -/
theorem same_answers_agree (isPrint : Char → Bool) (parseError : Bytes → String)
    (endStream : Bytes → Except String (Option (Bytes × Bytes))) (decodeJSON : Bytes → Json × Option String)
    (contentType : String) (body : Bytes) (opts : DiffOptions) :
    (∀ d ∈ (comparePayloads isPrint parseError endStream decodeJSON contentType contentType body body opts).2,
      d.kind = .decodeError) ∧ (decodes isPrint parseError endStream decodeJSON contentType body
        (comparePayloads isPrint parseError endStream decodeJSON contentType contentType body body opts).1 = true →
      (comparePayloads isPrint parseError endStream decodeJSON contentType contentType body body opts).2 = []) := by
  have hclean : Clean (decodes isPrint parseError endStream decodeJSON contentType body
      (comparePayloads isPrint parseError endStream decodeJSON contentType contentType body body opts).1)
      (comparePayloads isPrint parseError endStream decodeJSON contentType contentType body body opts).2 := by
    unfold comparePayloads
    dsimp only
    cases selectProtocol isPrint parseError endStream contentType contentType body body opts with
    | json => exact compareJSONPayloads_clean opts
    | protobuf => exact compareProtobufPayloads_clean opts
    | text => exact .inl (if_neg fun h => h.2 rfl)
    | empty => exact .inl rfl
  rcases hclean with hnone | ⟨hfailed,hkinds⟩
  · rw [hnone]
    exact ⟨fun _ h => absurd h List.not_mem_nil,fun _ => rfl⟩
  · refine ⟨hkinds,fun hdecoded => ?_⟩
    rw [hfailed] at hdecoded
    cases hdecoded

end Diverge.Replay
