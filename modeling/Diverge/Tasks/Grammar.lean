import Diverge.Tasks.Resuming
import Diverge.Text.Words

/-! The commands that comments are documented to have, and how far the reading of a comment keeps to them.
The reading also takes lines on which the sub-command follows `/diverge` without a space. -/
namespace Diverge.Tasks
open Text

def subcommands : List String :=
  ["fix","guide","preview","teardown","status","help","extend-ttl","pause","resume","budget"]

/-- The parts of a line after `/diverge`: what stands before the sub-command, the sub-command and the rest. -/
structure Sentence where
  gap : List Char
  word : List Char
  tail : List Char
  deriving DecidableEq

def Sentence.words (s : Sentence) : List String := String.ofList s.word :: fields (String.ofList s.tail)

def Sentence.argument (s : Sentence) : String := trimSpace (String.ofList s.tail)

/-- A line is `/diverge`, white space or nothing, and a documented sub-command in any case, and then a rest
that does not go on with that word. -/
structure Written (raw : String) (s : Sentence) : Prop where
  text : (trimSpace raw).toList = "/diverge".toList ++ (s.gap ++ (s.word ++ s.tail))
  gap : ∀ c ∈ s.gap, isSpace c = true
  word : s.word ≠ [] ∧ ∀ c ∈ s.word, isSpace c = false
  tail : ∀ c ∈ s.tail.head?, isSpace c = true
  known : toLower (String.ofList s.word) ∈ subcommands

/-- A line as it is documented, with white space after the word `/diverge`. -/
def Proper (raw : String) (s : Sentence) : Prop := Written raw s ∧ s.gap ≠ []

/-- A line on which `/diverge` is only the start of a word. -/
def Glued (raw : String) (s : Sentence) : Prop := Written raw s ∧ s.gap = []

def isFinite : Number → Bool
  | .finite _ => true
  | _ => false

/-- An argument that is read as an amount is read as a finite one. -/
def finiteArgument (arg : String) : Bool :=
  match readResumeArg {} arg with
  | .ok bump => bump.usd.all isFinite
  | .error _ => true

/-- The arguments of a budget: finite positive amounts and positive numbers of tokens, in any order. -/
def budgetArguments (m : Rounding) (args : List String) : Option (String × ℤ) :=
  if args.all finiteArgument then (parseResumeArgs m ("" :: args)).toOption else none

/-- What a documented line means: a text for `fix` and `guide`, a positive duration or none for
`extend-ttl`, and a budget for `resume` and `budget`. A line that is not well formed means nothing. -/
def meaning (m : Rounding) (words : List String) (argument : String) : Option SlashCommand :=
  let args := words.tail
  match toLower (words.headD "") with
  | "fix" => if argument = "" then none else some (.fix argument)
  | "guide" => if argument = "" then none else some (.guide argument)
  | "preview" => some .preview
  | "teardown" => some .teardown
  | "status" => some .status
  | "help" => some .help
  | "extend-ttl" =>
    if args = [] then some (.extendTTL defaultExtendTTLDuration)
    else ((parseDuration (args.headD "")).filter (0 < ·)).map .extendTTL
  | "pause" => some .pause
  | "resume" => (budgetArguments m args).map fun budget => .resume budget.1 budget.2
  | "budget" => (budgetArguments m args).map fun budget => .budget budget.1 budget.2
  | _ => none

/-- What a comment means, by its lines: the first documented line decides. -/
inductive Grammar (m : Rounding) : List String → Option SlashCommand → Prop
  | empty : Grammar m [] none
  | skipped {raw : String} {lines : List String} {answer : Option SlashCommand} (h : ∀ s, ¬Proper raw s)
      (hrest : Grammar m lines answer) : Grammar m (raw :: lines) answer
  | taken {raw : String} {lines : List String} {s : Sentence} (h : Proper raw s) :
      Grammar m (raw :: lines) (meaning m s.words s.argument)

/-- Of the lines that are taken the first decides: where it is documented and accepted as the command
for a budget, its amounts are finite; where it is glued, it asks for what the lines after it mean. -/
def Plain (m : Rounding) : List String → Prop
  | [] => True
  | raw :: lines =>
    (∀ s, Proper raw s → toLower (String.ofList s.word) ∈ ["resume","budget"] →
      (readResumeArgs s.words).toOption.isSome = true → s.words.tail.all finiteArgument = true) ∧
    (∀ s, Glued raw s → Grammar m lines (readCommand m s.words s.argument)) ∧
    ((∀ s, ¬Written raw s) → Plain m lines)

section
variable {raw : String} {words : List String} {argStr : String} {s s' : Sentence}

lemma commandLine_of_written (h : Written raw s) : commandLine raw = some (s.words,s.argument) := by
  have hends : EndsInWord (s.gap ++ (s.word ++ s.tail)) := by
    have hline := trimSpace_ends raw
    rw [h.text] at hline
    exact hline.of_append
  have hpre : hasPrefix (trimSpace raw) "/diverge" = true := by
    rw [hasPrefix,h.text]
    exact List.isPrefixOf_iff_prefix.mpr (List.prefix_append _ _)
  have hrest : trimPrefix (trimSpace raw) "/diverge" = String.ofList (s.gap ++ (s.word ++ s.tail)) := by
    rw [trimPrefix,if_pos hpre,h.text,List.drop_left]
  have htrim : trimSpace (String.ofList (s.gap ++ (s.word ++ s.tail))) = String.ofList (s.word ++ s.tail) := by
    rw [← String.toList_inj,trimSpace_of_ends (by rwa [String.toList_ofList]),String.toList_ofList,
      String.toList_ofList,List.dropWhile_append_of_pos h.gap]
    obtain ⟨hne,hword⟩ := h.word
    cases hw : s.word with
    | nil => exact absurd hw hne
    | cons c cs =>
      rw [List.cons_append]
      refine List.dropWhile_cons_of_neg ?_
      rw [hword c (by rw [hw]; exact List.mem_cons_self)]
      exact Bool.false_ne_true
  have hfields := fields_word_append h.word.1 h.word.2 h.tail
  unfold commandLine
  dsimp only
  rw [if_neg (by rw [hpre]; decide),hrest,htrim,hfields]
  have hknown : toLower (String.ofList s.word) ∈
      ["fix","guide","preview","teardown","status","help","extend-ttl","pause","resume","budget"] := h.known
  dsimp only
  rw [if_pos hknown,String.toList_ofList,String.length_ofList,List.drop_left]
  rfl

lemma exists_written (h : commandLine raw = some (words,argStr)) : ∃ s, Written raw s := by
  unfold commandLine at h
  dsimp only at h
  split_ifs at h with hpre
  rw [Bool.not_eq_false] at hpre
  obtain ⟨after,hafter⟩ := List.isPrefixOf_iff_prefix.mp hpre
  have hends : EndsInWord after := by
    have hline := trimSpace_ends raw
    rw [← hafter] at hline
    exact hline.of_append
  have hrest : trimPrefix (trimSpace raw) "/diverge" = String.ofList after := by
    rw [trimPrefix,if_pos hpre,← hafter,List.drop_left]
  obtain ⟨gap,word,tail,hparts,hgap,hword,htail,hdrop,hempty⟩ := first_word after
  have htrim : trimSpace (String.ofList after) = String.ofList (word ++ tail) := by
    rw [← String.toList_inj,trimSpace_of_ends (by rwa [String.toList_ofList]),String.toList_ofList,
      String.toList_ofList,hdrop]
  rw [hrest,htrim] at h
  by_cases hne : word = []
  · rw [hne,hempty hne] at h
    cases h
  · rw [fields_word_append hne hword htail] at h
    dsimp only at h
    split_ifs at h with hknown
    exact ⟨⟨gap,word,tail⟩,by rw [← hafter,hparts],hgap,⟨hne,hword⟩,htail,hknown⟩

lemma commandLine_eq_none_iff : commandLine raw = none ↔ ∀ s, ¬Written raw s := by
  constructor
  · intro h s hs
    rw [commandLine_of_written hs] at h
    cases h
  · intro h
    cases hline : commandLine raw with
    | none => rfl
    | some line =>
      obtain ⟨s,hs⟩ := exists_written hline
      exact absurd hs (h s)

end

section
variable {m : Rounding} {word : String} {args : List String} {argument : String}

lemma parseResumeArgs_isSome (m : Rounding) (words : List String) :
    (parseResumeArgs m words).toOption.isSome = (readResumeArgs words).toOption.isSome := by
  unfold parseResumeArgs
  cases readResumeArgs words <;> rfl

lemma budgetArguments_eq_iff : (parseResumeArgs m ("" :: args)).toOption = budgetArguments m args ↔
      ((readResumeArgs ("" :: args)).toOption.isSome = true → args.all finiteArgument = true) := by
  unfold budgetArguments
  rw [← parseResumeArgs_isSome m]
  split_ifs with hfinite
  · simp [hfinite]
  · cases (parseResumeArgs m ("" :: args)).toOption <;> simp [hfinite]

lemma readCommand_eq_meaning_iff (hknown : toLower word ∈ subcommands) (hargs : argument = "" ↔ args = []) :
    readCommand m (word :: args) argument = meaning m (word :: args) argument ↔
      (toLower word ∈ ["resume","budget"] → (readResumeArgs (word :: args)).toOption.isSome = true →
        args.all finiteArgument = true) := by
  have hmap (make : String × ℤ → SlashCommand) (hinj : Function.Injective make) :
      (parseResumeArgs m (word :: args)).toOption.map make = (budgetArguments m args).map make ↔
        ((readResumeArgs (word :: args)).toOption.isSome = true → args.all finiteArgument = true) := by
    rw [(Option.map_injective hinj).eq_iff]
    exact budgetArguments_eq_iff
  unfold readCommand meaning
  simp only [List.headD_cons,List.tail_cons]
  simp only [subcommands,List.mem_cons,List.not_mem_nil,or_false] at hknown
  rcases hknown with h | h | h | h | h | h | h | h | h | h
  all_goals rw [h]
  all_goals try simp
  · simp [hargs,List.head?_eq_getElem?]
  · simpa using hmap (fun budget => .resume budget.1 budget.2) fun a b hab => by
      simpa [Prod.ext_iff] using hab
  · simpa using hmap (fun budget => .budget budget.1 budget.2) fun a b hab => by
      simpa [Prod.ext_iff] using hab

lemma trimSpace_eq_empty_iff (cs : List Char) :
    trimSpace (String.ofList cs) = "" ↔ fields (String.ofList cs) = [] := by
  obtain ⟨gap,word,tail,hparts,hgap,hword,htail,hdrop,hempty⟩ := first_word cs
  by_cases hne : word = []
  · have hspace : cs.dropWhile isSpace = [] := by rw [hdrop,hne,hempty hne,List.nil_append]
    have hall : ∀ c ∈ cs, isSpace c = true := by simpa using List.dropWhile_eq_nil_iff.mp hspace
    have hfields := fields_space_append hall []
    rw [List.append_nil] at hfields
    rw [trimSpace,String.toList_ofList,hspace,hfields]
    exact iff_of_true rfl rfl
  · have hfields : fields (String.ofList cs) ≠ [] := by
      rw [hparts,fields_space_append hgap,fields_word_append hne hword htail]
      exact List.cons_ne_nil _ _
    refine iff_of_false (fun htrim => hne ?_) hfields
    rw [trimSpace,String.toList_ofList,hdrop,← String.toList_inj,String.toList_ofList] at htrim
    have hspace := List.dropWhile_eq_nil_iff.mp (List.reverse_eq_nil_iff.mp htrim)
    refine List.eq_nil_iff_forall_not_mem.mpr fun c hc => ?_
    have hc' := hspace c (List.mem_reverse.mpr (List.mem_append_left tail hc))
    rw [hword c hc] at hc'
    exact Bool.false_ne_true hc'

end

variable {m : Rounding} {raw : String} {lines : List String} {s s' : Sentence}

lemma Written.meaning_iff (h : Written raw s) :
    readCommand m s.words s.argument = meaning m s.words s.argument ↔
      (toLower (String.ofList s.word) ∈ ["resume","budget"] → (readResumeArgs s.words).toOption.isSome = true →
        s.words.tail.all finiteArgument = true) :=
  readCommand_eq_meaning_iff h.known (trimSpace_eq_empty_iff s.tail)

lemma Written.same (h : Written raw s) (h' : Written raw s') :
    s.words = s'.words ∧ s.argument = s'.argument := by
  have heq := (commandLine_of_written h).symm.trans (commandLine_of_written h')
  exact Prod.mk.inj (Option.some.inj heq)

lemma Glued.not_proper (h : Glued raw s) (h' : Proper raw s') : False := by
  have htext := h.1.text.symm.trans h'.1.text
  rw [List.append_cancel_left_eq,h.2,List.nil_append] at htext
  cases hgap : s'.gap with
  | nil => exact h'.2 hgap
  | cons c gap =>
    cases hword : s.word with
    | nil => exact h.1.word.1 hword
    | cons d word =>
      rw [hgap,hword,List.cons_append,List.cons_append,List.cons.injEq] at htext
      have hspace : isSpace c = true := h'.1.gap c (by rw [hgap]; exact List.mem_cons_self)
      have hno : isSpace d = false := h.1.word.2 d (by rw [hword]; exact List.mem_cons_self)
      rw [htext.1,hspace] at hno
      cases hno

/-- `parseSlashCommand` over the lines of a comment. -/
def parseLines (m : Rounding) (lines : List String) : Option SlashCommand :=
  (lines.findSome? commandLine).bind fun line => readCommand m line.1 line.2

variable {answer : Option SlashCommand}

lemma grammar_proper_iff (h : Proper raw s) :
    Grammar m (raw :: lines) answer ↔ answer = meaning m s.words s.argument := by
  constructor
  · rintro (_ | ⟨hno,-⟩ | ht)
    · exact absurd h (hno s)
    · rename_i t
      obtain ⟨hwords,hargument⟩ := ht.1.same h.1
      rw [hwords,hargument]
  · rintro rfl
    exact .taken h

lemma grammar_skipped_iff (h : ∀ s, ¬Proper raw s) :
    Grammar m (raw :: lines) answer ↔ Grammar m lines answer := by
  constructor
  · rintro (_ | ⟨-,hrest⟩ | ht)
    · exact hrest
    · exact absurd ht (h _)
  · exact .skipped h

lemma parseLines_grammar_iff (lines : List String) : Grammar m lines (parseLines m lines) ↔ Plain m lines := by
  induction lines with
  | nil => exact iff_of_true .empty trivial
  | cons raw lines ih =>
    unfold Plain
    by_cases hwritten : ∃ s, Written raw s
    · obtain ⟨s,hs⟩ := hwritten
      have hparse : parseLines m (raw :: lines) = readCommand m s.words s.argument := by
        rw [parseLines,List.findSome?_cons,commandLine_of_written hs]
        rfl
      rw [hparse]
      by_cases hgap : s.gap = []
      · have hglued : Glued raw s := ⟨hs,hgap⟩
        rw [grammar_skipped_iff fun t ht => hglued.not_proper ht]
        constructor
        · intro h
          refine ⟨fun t ht => absurd ht fun ht => hglued.not_proper ht,fun t ht => ?_,fun hno => absurd hs (hno s)⟩
          obtain ⟨hwords,hargument⟩ := ht.1.same hs
          rwa [hwords,hargument]
        · exact fun h => h.2.1 s hglued
      · have hproper : Proper raw s := ⟨hs,hgap⟩
        rw [grammar_proper_iff hproper,hs.meaning_iff]
        constructor
        · intro h
          refine ⟨fun t ht => ?_,fun t ht => absurd hproper fun h => ht.not_proper h,fun hno => absurd hs (hno s)⟩
          obtain ⟨hwords,-⟩ := ht.1.same hs
          rw [(List.cons.inj hwords).1,hwords]
          exact h
        · exact fun h => h.1 s hproper
    · have hnone : ∀ s, ¬Written raw s := fun s hs => hwritten ⟨s,hs⟩
      have hparse : parseLines m (raw :: lines) = parseLines m lines := by
        rw [parseLines,List.findSome?_cons,commandLine_eq_none_iff.mpr hnone]
        rfl
      rw [hparse,grammar_skipped_iff fun t ht => hnone t ht.1,ih]
      constructor
      · exact fun h => ⟨fun t ht => absurd ht.1 (hnone t),fun t ht => absurd ht.1 (hnone t),fun _ => h⟩
      · exact fun h => h.2.2 hnone

end Diverge.Tasks
