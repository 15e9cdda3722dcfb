import Diverge.Environments.Names
import Diverge.Text.Runes

/-! The names of the Pod and of the token Secret that belong to an AgentTask. Both use a short task
name as it is and cut a long one before its digest. Task names are valid object names, so that
their characters are bytes. -/
namespace Diverge.Sandbox
open Environments Kube Text TokenStore

section

def trimRight (s cutset : String) : String :=
  String.ofList (s.toList.reverse.dropWhile fun c => cutset.toList.contains c).reverse

variable {s t cutset : String}

lemma trimRight_isPrefix (s cutset : String) : (trimRight s cutset).toList <+: s.toList := by
  rw [trimRight,String.toList_ofList,← List.reverse_suffix,List.reverse_reverse]
  exact List.dropWhile_suffix _

lemma getLast?_trimRight {c : Char} (h : (trimRight s cutset).toList.getLast? = some c) :
    c ∉ cutset.toList := by
  rw [trimRight,String.toList_ofList,List.getLast?_reverse] at h
  have hnot := List.head?_dropWhile_not (fun c => cutset.toList.contains c) s.toList.reverse
  rw [h] at hnot
  simpa using hnot

lemma trimRight_ne_nil {c : Char} (hc : c ∈ s.toList) (hcut : c ∉ cutset.toList) :
    (trimRight s cutset).toList ≠ [] := by
  rw [trimRight,String.toList_ofList,ne_eq,List.reverse_eq_nil_iff,List.dropWhile_eq_nil_iff]
  intro hall
  exact hcut (by simpa using hall c (by simpa using hc))

lemma trimRight_append {c : Char} (hc : c ∈ t.toList) (hcut : c ∉ cutset.toList) :
    trimRight (s ++ t) cutset = s ++ trimRight t cutset := by
  have hne := trimRight_ne_nil hc hcut
  rw [trimRight,String.toList_ofList,ne_eq,List.reverse_eq_nil_iff] at hne
  rw [← String.toList_inj,trimRight,trimRight,String.toList_ofList,String.toList_append,String.toList_append,
    List.reverse_append,List.dropWhile_append,List.isEmpty_eq_false_iff.mpr hne,String.toList_ofList]
  simp

end

section
variable (sum256 : Sum256)

def sandboxPodName (taskName : String) : String :=
  if ("sb-pod-" ++ toLower taskName).toList.length ≤ 63 then "sb-pod-" ++ toLower taskName
  else
    trimRight (cut ("sb-pod-" ++ toLower taskName) (63 - 1 - (digest8 sum256 taskName).toList.length)) "-." ++
      "-" ++ digest8 sum256 taskName

/-- A short task name that is the cut text of a long one followed by its digest. -/
def CutOf (taskName long : String) : Prop :=
  taskName.toList.length ≤ 56 ∧ 56 < long.toList.length ∧
    taskName = trimRight (cut long 47) "-." ++ "-" ++ digest8 sum256 long

variable {sum256} {task long : String}

lemma toLower_of_subdomain (h : isDNS1123Subdomain task = true) : toLower task = task := by
  rw [← String.toList_inj,toLower,String.toList_ofList]
  conv_rhs => rw [← List.map_id task.toList]
  refine List.map_congr_left fun c hc => ?_
  exact forall_nameChar (P := fun c => lowerChar c = c) (by decide) (nameChar_of_subdomain h hc)

lemma cut_stays (h : isDNS1123Subdomain task = true) : ∃ c ∈ (cut task 47).toList, c ∉ "-.".toList := by
  obtain ⟨c,cs,hcs,hc⟩ := head_of_subdomain h
  refine ⟨c,by simp [cut,hcs],fun hmark => ?_⟩
  have hall : "-.".toList.all (fun d => !isLowerAlnum d) = true := by decide
  have hnot := List.all_eq_true.mp hall c hmark
  rw [hc] at hnot
  cases hnot

lemma sandboxPodName_short (h : isDNS1123Subdomain task = true) (hlen : task.toList.length ≤ 56) :
    sandboxPodName sum256 task = "sb-pod-" ++ task := by
  have hpre : "sb-pod-".toList.length = 7 := rfl
  rw [sandboxPodName,toLower_of_subdomain h,if_pos]
  rw [String.toList_append,List.length_append]
  omega

lemma sandboxPodName_long (h : isDNS1123Subdomain long = true) (hlen : 56 < long.toList.length) :
    sandboxPodName sum256 long =
      "sb-pod-" ++ (trimRight (cut long 47) "-." ++ "-" ++ digest8 sum256 long) := by
  have hpre : "sb-pod-".toList.length = 7 := rfl
  have hcut : cut ("sb-pod-" ++ long) 54 = "sb-pod-" ++ cut long 47 := by
    rw [← String.toList_inj]
    simp only [cut,String.toList_ofList,String.toList_append,List.take_append]
    rfl
  obtain ⟨c,hmem,hstay⟩ := cut_stays h
  rw [sandboxPodName,toLower_of_subdomain h,if_neg (by rw [String.toList_append,List.length_append]; omega),
    digest8_length]
  change trimRight (cut ("sb-pod-" ++ long) 54) "-." ++ _ ++ _ = _
  rw [hcut,trimRight_append hmem hstay]
  simp only [String.append_assoc]

/-- Two tasks have one Pod name: one of their names is the cut text of the other. -/
theorem sandboxPodName_eq_iff {task task' : String} (h : isDNS1123Subdomain task = true)
    (h' : isDNS1123Subdomain task' = true) (hne : task ≠ task')
    (hinj : digest8 sum256 task = digest8 sum256 task' → task = task') :
    sandboxPodName sum256 task = sandboxPodName sum256 task' ↔
      CutOf sum256 task task' ∨ CutOf sum256 task' task := by
  by_cases hs : task.toList.length ≤ 56
  · by_cases hs' : task'.toList.length ≤ 56
    · rw [sandboxPodName_short h hs,sandboxPodName_short h' hs',String.append_right_inj]
      refine ⟨fun he => absurd he hne,?_⟩
      rintro (hcut | hcut)
      · exact absurd hs' (by have := hcut.2.1; omega)
      · exact absurd hs (by have := hcut.2.1; omega)
    · rw [sandboxPodName_short h hs,sandboxPodName_long h' (by omega),String.append_right_inj]
      refine ⟨fun he => .inl ⟨hs,by omega,he⟩,?_⟩
      rintro (hcut | hcut)
      · exact hcut.2.2
      · exact absurd hcut.1 hs'
  · by_cases hs' : task'.toList.length ≤ 56
    · rw [sandboxPodName_long h (by omega),sandboxPodName_short h' hs',String.append_right_inj]
      refine ⟨fun he => .inr ⟨hs',by omega,he.symm⟩,?_⟩
      rintro (hcut | hcut)
      · exact absurd hcut.1 hs
      · exact hcut.2.2.symm
    · rw [sandboxPodName_long h (by omega),sandboxPodName_long h' (by omega),String.append_right_inj]
      refine ⟨fun he => absurd (hinj (digest8_of_append_eq he)) hne,?_⟩
      rintro (hcut | hcut)
      · exact absurd hcut.1 hs
      · exact absurd hcut.1 hs'

end

section
variable {sum256 : Sum256} {task : String}

lemma dotted_sb_pod {cs : List Char} (h : Dotted cs) : Dotted ("sb-pod-".toList ++ cs) := by
  have hall : "sb-pod-".toList.all isLabelChar = true := by decide +kernel
  have hhead : ∃ c, "sb-pod-".toList.head? = some c ∧ isLowerAlnum c = true := ⟨'s',rfl,by decide⟩
  cases h with
  | label h => exact .label (label_append (List.all_eq_true.mp hall) hhead h)
  | dot h tail =>
    rw [← List.append_assoc]
    exact .dot (label_append (List.all_eq_true.mp hall) hhead h) tail

theorem sandboxPodName_valid (sum256 : Sum256) (h : isDNS1123Subdomain task = true) :
    isDNS1123Subdomain (sandboxPodName sum256 task) = true := by
  have hpre : "sb-pod-".toList.length = 7 := rfl
  obtain ⟨hdotted,hlen⟩ := isDNS1123Subdomain_iff.mp h
  rw [isDNS1123Subdomain_iff]
  by_cases hs : task.toList.length ≤ 56
  · rw [sandboxPodName_short h hs,String.toList_append,List.length_append]
    exact ⟨dotted_sb_pod hdotted,by omega⟩
  · rw [sandboxPodName_long h (by omega)]
    obtain ⟨c,hmem,hstay⟩ := cut_stays h
    have hne := trimRight_ne_nil hmem hstay
    have hdot : (trimRight (cut task 47) "-.").toList.getLast? ≠ some '.' := fun hlast =>
      getLast?_trimRight hlast (by decide)
    have hpart := trimRight_isPrefix (cut task 47) "-."
    have hlength := hpart.length_le
    rw [cut,String.toList_ofList,List.length_take] at hlength
    have hstart : (trimRight (cut task 47) "-.").toList <+: task.toList := by
      rw [cut,String.toList_ofList] at hpart
      exact hpart.trans (List.take_prefix 47 task.toList)
    obtain ⟨hchars,hlast⟩ := @digest_ends ['-'] ((sum256 (utf8 task)).toList.take 4)
      (by simp [isLabelChar]) (by simp)
    have hname := dotted_sb_pod (hdotted.extend hstart hne hdot hchars hlast)
    have htext : ("sb-pod-" ++ (trimRight (cut task 47) "-." ++ "-" ++ digest8 sum256 task)).toList =
        "sb-pod-".toList ++ ((trimRight (cut task 47) "-.").toList ++
          (['-'] ++ (digest8 sum256 task).toList)) := by simp
    rw [htext]
    refine ⟨hname,?_⟩
    simp only [List.length_append,digest8_length,List.length_singleton,hpre]
    change (trimRight (cut task 47) "-.").toList.length ≤ _ at hlength
    omega

lemma asciiText_secretName (h : isDNS1123Subdomain task = true) :
    (asciiText (secretName sum256 (utf8 task))).toList =
      if task.toList.length ≤ 247 then task.toList ++ "-token".toList
      else task.toList.take 230 ++ ("-token-".toList ++
        (hexText ((sum256 (utf8 task)).toList.take 8)).toList) := by
  have hascii : ∀ c ∈ task.toList, c.toNat < 128 := fun c hc => nameChar_lt (nameChar_of_subdomain h hc)
  have htask := congrArg String.toList (asciiText_utf8 hascii)
  rw [asciiText_toList] at htask
  have hlen : (utf8 task).length = task.toList.length := by rw [utf8_of_ascii hascii,List.length_map]
  have htoken : (utf8 "-token").length = 6 := by decide
  have hhex : (shortHash sum256 (utf8 task)).map (fun b => Char.ofNat b.toNat) =
      (hexText ((sum256 (utf8 task)).toList.take 8)).toList := by
    rw [shortHash,hexText,String.toList_ofList,hexBytes_chars]
  rw [asciiText_toList]
  split_ifs with hs
  · rw [secretName_short (by rw [List.length_append]; omega),List.map_append,htask]
    congr 1
  · rw [secretName_long (by rw [List.length_append]; omega),List.map_append,List.map_append,List.map_take,
      htask,hhex,List.append_assoc]
    congr 1

def DotAtCut (taskName : String) : Prop := 247 < taskName.toList.length ∧ taskName.toList[229]? = some '.'

theorem secretName_valid_iff (sum256 : Sum256) (h : isDNS1123Subdomain task = true) :
    isDNS1123Subdomain (asciiText (secretName sum256 (utf8 task))) = true ↔ ¬DotAtCut task := by
  obtain ⟨hdotted,hlen⟩ := isDNS1123Subdomain_iff.mp h
  rw [isDNS1123Subdomain_iff,asciiText_secretName h,DotAtCut]
  split_ifs with hs
  · have htoken : "-token".toList.length = 6 := rfl
    have hall : "-token".toList.all isLabelChar = true := by decide +kernel
    have hne : task.toList ≠ [] := fun hnil => ne_empty_of_subdomain h (String.toList_eq_nil_iff.mp hnil)
    obtain ⟨c,hc,halnum⟩ := hdotted.getLast
    have hdot : task.toList.getLast? ≠ some '.' := by
      rw [hc]
      rintro ⟨⟩
      exact absurd halnum (by decide)
    refine iff_of_true ⟨?_,by rw [List.length_append]; omega⟩ fun hcut => absurd hs (by omega)
    exact hdotted.extend List.prefix_rfl hne hdot (List.all_eq_true.mp hall) ⟨'n',rfl,by decide⟩
  · have hall : "-token-".toList.all isLabelChar = true := by decide +kernel
    have hlong : 247 < task.toList.length := by omega
    have hlast : (task.toList.take 230).getLast? = task.toList[229]? := by
      rw [List.getLast?_take,if_neg (by decide),List.getElem?_eq_getElem (by omega),Option.some_or]
    have hne : task.toList.take 230 ≠ [] := by
      intro hnil
      have hlength := congrArg List.length hnil
      rw [List.length_take,List.length_nil] at hlength
      omega
    have hsize : ("-token-".toList ++ (hexText ((sum256 (utf8 task)).toList.take 8)).toList).length = 23 := by
      simp [hexText]
    obtain ⟨hchars,hend⟩ := @digest_ends "-token-".toList ((sum256 (utf8 task)).toList.take 8)
      (List.all_eq_true.mp hall) (by simp)
    constructor
    · rintro ⟨hvalid,-⟩ ⟨-,hdot⟩
      rw [← hlast] at hdot
      obtain ⟨before,hbefore⟩ := List.getLast?_eq_some_iff.mp hdot
      rw [hbefore,List.append_assoc] at hvalid
      obtain ⟨c,hc,halnum⟩ := hvalid.of_dot.head
      have hdash : c = '-' := (Option.some.inj hc).symm
      exact absurd halnum (hdash ▸ by decide)
    · intro hcut
      refine ⟨hdotted.extend (List.take_prefix _ _) hne ?_ hchars hend,?_⟩
      · rw [hlast]
        exact fun hdot => hcut ⟨hlong,hdot⟩
      · rw [List.length_append,hsize,List.length_take]
        omega

end

variable {sum256 : Sum256} {task task' : String}

/-- Two tasks with different names have their own Pods and token Secrets, under names that the API
server accepts, unless one name is the cut text of the other or a cut ends in a dot. -/
theorem tasks_kept_apart_iff (h : isDNS1123Subdomain task = true) (h' : isDNS1123Subdomain task' = true)
    (hne : task ≠ task')
    (hinj : (sum256 (utf8 task)).toList.take 4 = (sum256 (utf8 task')).toList.take 4 → task = task') :
    (sandboxPodName sum256 task ≠ sandboxPodName sum256 task' ∧
      secretName sum256 (utf8 task) ≠ secretName sum256 (utf8 task') ∧
      ∀ name ∈ [task,task'], isDNS1123Subdomain (sandboxPodName sum256 name) = true ∧
        isDNS1123Subdomain (asciiText (secretName sum256 (utf8 name))) = true) ↔
    ¬CutOf sum256 task task' ∧ ¬CutOf sum256 task' task ∧ ∀ name ∈ [task,task'], ¬DotAtCut name := by
  have hdigest : digest8 sum256 task = digest8 sum256 task' → task = task' := by
    intro hd
    refine hinj (hexChars_injective ?_)
    simpa only [digest8,hexText,String.toList_ofList] using congrArg String.toList hd
  have hsecrets : secretName sum256 (utf8 task) ≠ secretName sum256 (utf8 task') := by
    have hcf : CollisionFree sum256 {utf8 task,utf8 task'} := by
      refine Set.injOn_pair.mpr fun h8 => congrArg utf8 (hinj ?_)
      simpa [List.take_take] using congrArg (List.take 4) h8
    intro he
    exact hne (utf8_injective (secretName_injOn hcf (by simp) (by simp) he))
  rw [ne_eq,sandboxPodName_eq_iff h h' hne hdigest,not_or,and_assoc]
  refine and_congr_right fun _ => and_congr_right fun _ => ?_
  simp only [List.forall_mem_cons,List.not_mem_nil,false_implies,implies_true,and_true,
    sandboxPodName_valid sum256 h,sandboxPodName_valid sum256 h',true_and,
    secretName_valid_iff sum256 h,secretName_valid_iff sum256 h',hsecrets,ne_eq,not_false_eq_true]

def loginSum256 : Sum256 := fun t =>
  if t = utf8 "fix-the-login-form-so-that-it-accepts-plus-signs-in-addresses" then
    #v[15,115,222,41,53,213,48,107,37,55,222,184,21,110,11,31,40,19,103,162,143,66,85,120,179,208,54,
      137,179,217,63,143]
  else if t = utf8 "fix-the-login-form-so-that-it-accepts-plus-sign-0f73de29" then
    #v[215,79,242,188,139,46,20,248,63,239,53,45,86,46,18,25,64,4,111,107,6,243,216,238,153,113,206,
      169,72,24,156,35]
  else Vector.replicate 32 0

/-- Both tasks run in one Pod. -/
theorem cut_name_shares_pod :
    isDNS1123Subdomain "fix-the-login-form-so-that-it-accepts-plus-signs-in-addresses" = true ∧
      isDNS1123Subdomain "fix-the-login-form-so-that-it-accepts-plus-sign-0f73de29" = true ∧
      (loginSum256 (utf8 "fix-the-login-form-so-that-it-accepts-plus-signs-in-addresses")).toList.take 4 ≠
        (loginSum256 (utf8 "fix-the-login-form-so-that-it-accepts-plus-sign-0f73de29")).toList.take 4 ∧
      sandboxPodName loginSum256 "fix-the-login-form-so-that-it-accepts-plus-signs-in-addresses" =
        sandboxPodName loginSum256 "fix-the-login-form-so-that-it-accepts-plus-sign-0f73de29" := by
  decide +kernel

theorem login_and_docs_apart :
    sandboxPodName sampleSum256 "fix-login" ≠ sandboxPodName sampleSum256 "add-docs" ∧
      secretName sampleSum256 (utf8 "fix-login") ≠ secretName sampleSum256 (utf8 "add-docs") ∧
      ∀ name ∈ ["fix-login","add-docs"], isDNS1123Subdomain (sandboxPodName sampleSum256 name) = true ∧
        isDNS1123Subdomain (asciiText (secretName sampleSum256 (utf8 name))) = true := by
  refine (tasks_kept_apart_iff (by decide) (by decide) (by decide) (fun h => absurd h (by decide))).mpr ⟨?_,?_,?_⟩
  · exact fun hcut => absurd hcut.2.1 (by decide)
  · exact fun hcut => absurd hcut.2.1 (by decide)
  · intro name hname hdot
    rcases List.mem_pair.mp hname with rfl | rfl
    · exact absurd hdot.1 (by decide)
    · exact absurd hdot.1 (by decide)

end Diverge.Sandbox
