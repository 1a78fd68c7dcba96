import Mathlib.Data.List.Basic
import Mathlib.Data.String.Basic

namespace Kots.Cli

inductive Regex where
  | chars (allowed : Char → Bool)
  | many (allowed : Char → Bool)
  | opt (r : Regex)
  | seq (r s : Regex)

def manyRests (allowed : Char → Bool) : List Char → List (List Char)
  | [] => [[]]
  | c :: cs => (c :: cs) :: if allowed c then manyRests allowed cs else []

def Regex.rests : Regex → List Char → List (List Char)
  | .chars allowed, c :: cs => if allowed c then [cs] else []
  | .chars _, [] => []
  | .many allowed, cs => manyRests allowed cs
  | .opt r, cs => cs :: r.rests cs
  | .seq r s, cs => (r.rests cs).flatMap s.rests

def Regex.matches (r : Regex) (value : String) : Bool := (r.rests value.toList).any List.isEmpty

def alphanumeric (c : Char) : Bool := c.isAlphanum

def qualifiedNameExtChar (c : Char) : Bool := c == '-' || c.isAlphanum || c == '_' || c == '.'

def qualifiedNameFmt : Regex :=
  .seq (.opt (.seq (.chars alphanumeric) (.many qualifiedNameExtChar))) (.chars alphanumeric)

def labelValueFmt : Regex := .opt qualifiedNameFmt

def labelValueMaxLength : Nat := 63

inductive LabelValueError where
  | maxLen
  | regex
  deriving DecidableEq, Repr

/-- `validation.IsValidLabelValue(value)`; Go's `len(value)` counts bytes. -/
def isValidLabelValue (value : String) : List LabelValueError :=
  (if value.utf8ByteSize > labelValueMaxLength then [.maxLen] else []) ++
    (if labelValueFmt.matches value then [] else [.regex])

inductive NamespaceError where
  | invalid
  | underscore
  | label (err : LabelValueError)
  deriving DecidableEq, Repr

def NamespaceError.message (labelText : LabelValueError → String) : NamespaceError → String
  | .invalid => "invalid namespace"
  | .underscore => "a namespace should not contain the _ character"
  | .label err => labelText err

def labelValueError (value : String) : Option NamespaceError :=
  (isValidLabelValue value).head?.map .label

/-- The check `InstallCmd` makes of a `--namespace` that is not empty. -/
def checkNamespaceFlag (value : String) : Option NamespaceError :=
  if value.toList.contains '_' then some .underscore else labelValueError value

/-- The `Validate` function of the prompt of `promptForNamespace`. -/
def validate (input : String) : Option NamespaceError :=
  if input.isEmpty then some .invalid
  else if input.toList.contains '_' then some .underscore
  else labelValueError input

/-- What `prompt.Run()` reads each time the loop of `promptForNamespace` calls it: an entry the
    user submits, Ctrl+C (`promptui.ErrInterrupt`), or another error, such as the end of the input. -/
inductive PromptInput where
  | submit (entry : String)
  | interrupt
  | failure
  deriving DecidableEq, Repr

/-- How the loop of `promptForNamespace` ends: it returns the namespace entered, or it calls
    `os.Exit(-1)` after an interrupt. -/
inductive PromptEnd where
  | entered (value : String)
  | interrupted
  deriving DecidableEq, Repr

def PromptEnd.entry : PromptEnd → Option String
  | .entered value => some value
  | .interrupted => none

/-- The loop of `promptForNamespace`, given what `prompt.Run()` reads in turn: an entry `Validate`
    rejects is asked for again, and so is one read with an error other than an interrupt; `none`
    while the loop goes on. -/
def promptForNamespace : List PromptInput → Option PromptEnd
  | [] => none
  | .submit entry :: inputs => if validate entry = none then some (.entered entry) else promptForNamespace inputs
  | .interrupt :: _ => some .interrupted
  | .failure :: inputs => promptForNamespace inputs

/-- The namespace `InstallCmd` installs to: the `--namespace` flag once it passes the check, or
    the entry the prompt returns when the flag is empty; `none` while the prompt waits, and once
    it is interrupted. -/
def installNamespace (flag : String) (inputs : List PromptInput) : Except NamespaceError (Option String) :=
  if flag ≠ "" then
    match checkNamespaceFlag flag with
    | some err => .error err
    | none => .ok (some flag)
  else .ok ((promptForNamespace inputs).bind PromptEnd.entry)

def lowerAlphanumeric (c : Char) : Bool := c.isLower || c.isDigit

def dns1123LabelChar (c : Char) : Bool := c == '-' || c.isLower || c.isDigit

def dns1123LabelFmt : Regex :=
  .seq (.chars lowerAlphanumeric) (.opt (.seq (.many dns1123LabelChar) (.chars lowerAlphanumeric)))

def isDNS1123Label (value : String) : Bool := value.length ≤ 63 && dns1123LabelFmt.matches value

/-- Upper-case letters and dots pass both namespace checks, though no Kubernetes namespace
    name holds them. -/
theorem non_dns_namespaces_accepted :
    (checkNamespaceFlag "Default" = none ∧ validate "Default" = none ∧ isDNS1123Label "Default" = false) ∧
      (checkNamespaceFlag "my.app" = none ∧ validate "my.app" = none ∧ isDNS1123Label "my.app" = false) := by
  decide

section Matching

variable {allowed : Char → Bool} {cs rest : List Char}

theorem mem_manyRests : rest ∈ manyRests allowed cs ↔ ∃ pre, cs = pre ++ rest ∧ pre.all allowed := by
  induction cs with
  | nil =>
    simp only [manyRests, List.mem_singleton, List.nil_eq_append_iff]
    exact ⟨fun h => ⟨[], ⟨rfl, h⟩, rfl⟩, fun ⟨_, ⟨_, h⟩, _⟩ => h⟩
  | cons c cs ih =>
    simp only [manyRests, List.mem_cons]
    constructor
    · rintro (rfl | member)
      · exact ⟨[], rfl, rfl⟩
      · split at member
        · obtain ⟨pre, rfl, all⟩ := ih.mp member
          exact ⟨c :: pre, rfl, by simp_all⟩
        · simp at member
    · rintro ⟨_ | ⟨c', pre⟩, split, all⟩
      · exact Or.inl split.symm
      · simp only [List.cons_append, List.cons.injEq] at split
        obtain ⟨rfl, rfl⟩ := split
        simp only [List.all_cons, Bool.and_eq_true] at all
        simp only [all.1, if_true]
        exact Or.inr (ih.mpr ⟨pre, rfl, all.2⟩)

@[simp] theorem mem_rests_chars : rest ∈ (Regex.chars allowed).rests cs ↔ ∃ c, cs = c :: rest ∧ allowed c := by
  cases cs with
  | nil => simp [Regex.rests]
  | cons c cs =>
    simp only [Regex.rests, List.cons.injEq]
    split
    · exact ⟨fun h => ⟨c, ⟨rfl, (List.mem_singleton.mp h).symm⟩, by assumption⟩,
        fun ⟨_, ⟨_, h⟩, _⟩ => List.mem_singleton.mpr h.symm⟩
    · simp_all

@[simp] theorem mem_rests_many : rest ∈ (Regex.many allowed).rests cs ↔ ∃ pre, cs = pre ++ rest ∧ pre.all allowed :=
  mem_manyRests

@[simp] theorem mem_rests_opt {r : Regex} : rest ∈ r.opt.rests cs ↔ rest = cs ∨ rest ∈ r.rests cs :=
  List.mem_cons

@[simp] theorem mem_rests_seq {r s : Regex} : rest ∈ (r.seq s).rests cs ↔ ∃ mid ∈ r.rests cs, rest ∈ s.rests mid :=
  List.mem_flatMap

theorem matches_iff {r : Regex} {value : String} : r.matches value ↔ [] ∈ r.rests value.toList := by
  simp [Regex.matches, List.any_eq_true]

end Matching

theorem getLast?_cons_concat (c d : Char) (pre : List Char) : (c :: (pre ++ [d])).getLast? = some d := by
  rw [← List.cons_append, List.getLast?_concat]

def framed (ends inner : Char → Bool) (cs : List Char) : Bool :=
  !cs.isEmpty && cs.head?.all ends && cs.getLast?.all ends && cs.all inner

section Framed

variable {ends inner : Char → Bool} (sub : ∀ c, ends c → inner c) {cs : List Char}
include sub

theorem framed_iff : framed ends inner cs ↔
    (∃ d, cs = [d] ∧ ends d) ∨ ∃ c pre d, cs = c :: (pre ++ [d]) ∧ ends c ∧ pre.all inner ∧ ends d := by
  constructor
  · intro h
    obtain rfl | ⟨rest, d, rfl⟩ := List.eq_nil_or_concat cs
    · simp [framed] at h
    · simp only [framed, List.concat_eq_append, List.getLast?_concat, Option.all_some, List.all_append,
        List.all_cons, List.all_nil, Bool.and_true, Bool.and_eq_true] at h
      cases rest with
      | nil => exact Or.inl ⟨d, rfl, h.1.2⟩
      | cons c pre =>
        simp only [List.head?_cons, Option.all_some, List.all_cons, Bool.and_eq_true] at h
        exact Or.inr ⟨c, pre, d, by simp, h.1.1.2, h.2.1.2, h.1.2⟩
  · rintro (⟨d, rfl, hd⟩ | ⟨c, pre, d, rfl, hc, hpre, hd⟩)
    · simp [framed, hd, sub d hd]
    · simp [framed, getLast?_cons_concat, hc, hd, sub d hd, sub c hc, hpre]

theorem qualifiedName_rests_iff :
    [] ∈ (Regex.seq (.opt (.seq (.chars ends) (.many inner))) (.chars ends)).rests cs ↔ framed ends inner cs := by
  rw [framed_iff sub]
  simp only [mem_rests_seq, mem_rests_opt, mem_rests_chars, mem_rests_many]
  constructor
  · rintro ⟨mid, rfl | ⟨m2, ⟨c, rfl, hc⟩, pre, rfl, hpre⟩, d, rfl, hd⟩
    · exact Or.inl ⟨d, rfl, hd⟩
    · exact Or.inr ⟨c, pre, d, rfl, hc, hpre, hd⟩
  · rintro (⟨d, rfl, hd⟩ | ⟨c, pre, d, rfl, hc, hpre, hd⟩)
    · exact ⟨[d], Or.inl rfl, d, rfl, hd⟩
    · exact ⟨[d], Or.inr ⟨pre ++ [d], ⟨c, rfl, hc⟩, pre, rfl, hpre⟩, d, rfl, hd⟩

theorem dnsLabel_rests_iff :
    [] ∈ (Regex.seq (.chars ends) (.opt (.seq (.many inner) (.chars ends)))).rests cs ↔ framed ends inner cs := by
  rw [framed_iff sub]
  simp only [mem_rests_seq, mem_rests_opt, mem_rests_chars, mem_rests_many]
  constructor
  · rintro ⟨mid, ⟨c, rfl, hc⟩, rfl | ⟨m2, ⟨pre, rfl, hpre⟩, d, rfl, hd⟩⟩
    · exact Or.inl ⟨c, rfl, hc⟩
    · exact Or.inr ⟨c, pre, d, rfl, hc, hpre, hd⟩
  · rintro (⟨d, rfl, hd⟩ | ⟨c, pre, d, rfl, hc, hpre, hd⟩)
    · exact ⟨[], ⟨d, rfl, hd⟩, Or.inl rfl⟩
    · exact ⟨pre ++ [d], ⟨c, rfl, hc⟩, Or.inr ⟨[d], ⟨pre, rfl, hpre⟩, d, rfl, hd⟩⟩

end Framed

theorem option_all_mono {p q : Char → Bool} (sub : ∀ c, p c → q c) : ∀ o : Option Char, o.all p → o.all q
  | none, _ => rfl
  | some c, h => sub c h

theorem framed_mono {ends inner ends' inner' : Char → Bool} (sub_ends : ∀ c, ends c → ends' c)
    (sub_inner : ∀ c, inner c → inner' c) {cs : List Char} (h : framed ends inner cs) : framed ends' inner' cs := by
  simp only [framed, Bool.and_eq_true, List.all_eq_true] at h ⊢
  exact ⟨⟨⟨h.1.1.1, option_all_mono sub_ends _ h.1.1.2⟩, option_all_mono sub_ends _ h.1.2⟩,
    fun c member => sub_inner c (h.2 c member)⟩

theorem alphanumeric_qualifiedNameExtChar (c : Char) (h : alphanumeric c) : qualifiedNameExtChar c := by
  simp only [alphanumeric, qualifiedNameExtChar, Bool.or_eq_true] at h ⊢
  tauto

theorem lowerAlphanumeric_dns1123LabelChar (c : Char) (h : lowerAlphanumeric c) : dns1123LabelChar c := by
  simp only [lowerAlphanumeric, dns1123LabelChar, Bool.or_eq_true] at h ⊢
  tauto

theorem labelValueFmt_matches {value : String} :
    labelValueFmt.matches value ↔ value.toList = [] ∨ framed alphanumeric qualifiedNameExtChar value.toList := by
  rw [matches_iff, labelValueFmt, mem_rests_opt, eq_comm, qualifiedNameFmt,
    qualifiedName_rests_iff alphanumeric_qualifiedNameExtChar]

theorem dns1123LabelFmt_matches {value : String} :
    dns1123LabelFmt.matches value ↔ framed lowerAlphanumeric dns1123LabelChar value.toList := by
  rw [matches_iff, dns1123LabelFmt, dnsLabel_rests_iff lowerAlphanumeric_dns1123LabelChar]

def namespaceChar (c : Char) : Bool := c == '-' || c.isAlphanum || c == '.'

def acceptedNamespace (value : String) : Bool :=
  value.utf8ByteSize ≤ labelValueMaxLength && framed alphanumeric namespaceChar value.toList

theorem namespaceChar_iff (c : Char) : namespaceChar c ↔ qualifiedNameExtChar c ∧ c ≠ '_' := by
  by_cases underscore : c = '_'
  · subst underscore
    decide
  · simp [namespaceChar, qualifiedNameExtChar, underscore]

theorem framed_namespaceChar {cs : List Char} :
    framed alphanumeric namespaceChar cs ↔ framed alphanumeric qualifiedNameExtChar cs ∧ '_' ∉ cs := by
  simp only [framed, Bool.and_eq_true, List.all_eq_true, namespaceChar_iff, ne_eq, forall_and,
    List.forall_mem_ne', and_assoc]

theorem framed_ne_nil {ends inner : Char → Bool} {cs : List Char} (h : framed ends inner cs) : cs ≠ [] := by
  rintro rfl
  simp [framed] at h

theorem isValidLabelValue_eq_nil {value : String} :
    isValidLabelValue value = [] ↔ value.utf8ByteSize ≤ labelValueMaxLength ∧ labelValueFmt.matches value := by
  unfold isValidLabelValue
  split <;> split <;> simp_all

theorem labelValueError_eq_none {value : String} : labelValueError value = none ↔ isValidLabelValue value = [] := by
  simp [labelValueError]

theorem validate_eq_none_iff (value : String) : validate value = none ↔ acceptedNamespace value := by
  have empty : value.isEmpty ↔ value.toList = [] := (String.isEmpty_iff value).trans String.ext_iff
  simp only [validate, acceptedNamespace, Bool.and_eq_true, decide_eq_true_eq, framed_namespaceChar]
  split
  · simp only [reduceCtorEq, false_iff]
    exact fun h => framed_ne_nil h.2.1 (empty.mp (by assumption))
  · split
    · simp_all
    · rw [labelValueError_eq_none, isValidLabelValue_eq_nil, labelValueFmt_matches]
      simp_all

theorem checkNamespaceFlag_eq_validate {value : String} (nonempty : value ≠ "") :
    checkNamespaceFlag value = validate value := by
  have filled : value.isEmpty = false := Bool.eq_false_iff.mpr fun h => nonempty ((String.isEmpty_iff value).mp h)
  simp [checkNamespaceFlag, validate, filled]

theorem val_le_of_dns1123LabelChar {c : Char} (h : dns1123LabelChar c) : c.val ≤ 122 := by
  simp only [dns1123LabelChar, Bool.or_eq_true, beq_iff_eq, Char.isLower, Char.isDigit, Bool.and_eq_true,
    decide_eq_true_eq] at h
  rcases h with (rfl | h) | h
  · decide
  · exact h.2
  · simp only [UInt32.le_def, BitVec.le_def] at h ⊢
    exact h.2.trans (by decide)

theorem utf8Size_of_dns1123LabelChar {c : Char} (h : dns1123LabelChar c) : c.utf8Size = 1 := by
  have below : c.val ≤ 127 := by
    have := val_le_of_dns1123LabelChar h
    simp only [UInt32.le_def, BitVec.le_def] at this ⊢
    exact this.trans (by decide)
  simp [Char.utf8Size, below]

theorem utf8ByteSize_of_dns1123LabelChar {value : String} (all : value.toList.all dns1123LabelChar) :
    value.utf8ByteSize = value.length := by
  obtain ⟨cs⟩ := value
  change cs.all dns1123LabelChar at all
  show String.utf8ByteSize.go cs = cs.length
  induction cs with
  | nil => rfl
  | cons c cs ih =>
    simp only [List.all_cons, Bool.and_eq_true] at all
    show String.utf8ByteSize.go cs + c.utf8Size = cs.length + 1
    rw [ih all.2, utf8Size_of_dns1123LabelChar all.1]

theorem lowerAlphanumeric_alphanumeric (c : Char) (h : lowerAlphanumeric c) : alphanumeric c := by
  simp only [lowerAlphanumeric, alphanumeric, Char.isAlphanum, Char.isAlpha, Bool.or_eq_true] at h ⊢
  tauto

theorem dns1123LabelChar_namespaceChar (c : Char) (h : dns1123LabelChar c) : namespaceChar c := by
  simp only [dns1123LabelChar, namespaceChar, Char.isAlphanum, Char.isAlpha, Bool.or_eq_true] at h ⊢
  tauto

theorem dns1123Label_accepted {value : String} (label : isDNS1123Label value) :
    checkNamespaceFlag value = none ∧ validate value = none := by
  simp only [isDNS1123Label, Bool.and_eq_true, decide_eq_true_eq, dns1123LabelFmt_matches] at label
  have all : value.toList.all dns1123LabelChar := by
    simp only [framed, Bool.and_eq_true] at label
    exact label.2.2
  have accepted : validate value = none := by
    rw [validate_eq_none_iff]
    simp only [acceptedNamespace, Bool.and_eq_true, decide_eq_true_eq, utf8ByteSize_of_dns1123LabelChar all]
    exact ⟨label.1, framed_mono lowerAlphanumeric_alphanumeric dns1123LabelChar_namespaceChar label.2⟩
  have nonempty : value ≠ "" := fun h => framed_ne_nil label.2 (by simp [h])
  exact ⟨(checkNamespaceFlag_eq_validate nonempty).trans accepted, accepted⟩

/-- The two checks agree on every namespace the flag check sees, they accept exactly
    `acceptedNamespace`, and every Kubernetes namespace name is among what they accept. -/
theorem namespace_checks_accept :
    (∀ value, value ≠ "" → checkNamespaceFlag value = validate value) ∧
      (∀ value, validate value = none ↔ acceptedNamespace value) ∧
      (∀ value, isDNS1123Label value → checkNamespaceFlag value = none ∧ validate value = none) :=
  ⟨fun _ => checkNamespaceFlag_eq_validate, validate_eq_none_iff, fun _ => dns1123Label_accepted⟩

theorem promptForNamespace_validated {inputs : List PromptInput} {value : String}
    (prompted : promptForNamespace inputs = some (.entered value)) : validate value = none := by
  induction inputs with
  | nil => cases prompted
  | cons input inputs ih =>
    cases input with
    | submit entry =>
      simp only [promptForNamespace] at prompted
      split at prompted
      · cases prompted
        assumption
      · exact ih prompted
    | interrupt => cases prompted
    | failure => exact ih prompted

theorem promptForNamespace_ends_iff (e : PromptEnd) :
    (∃ inputs, promptForNamespace inputs = some e) ↔ ∀ value, e = .entered value → validate value = none := by
  constructor
  · rintro ⟨inputs, prompted⟩ value rfl
    exact promptForNamespace_validated prompted
  · cases e with
    | entered value => exact fun accepted => ⟨[.submit value], by simp [promptForNamespace, accepted value rfl]⟩
    | interrupted => exact fun _ => ⟨[.interrupt], rfl⟩

section Chosen

variable {flag value : String} {inputs : List PromptInput}

theorem PromptEnd.entry_eq_some {e : PromptEnd} : e.entry = some value ↔ e = .entered value := by
  cases e <;> simp [PromptEnd.entry]

theorem installNamespace_eq_ok :
    installNamespace flag inputs = .ok (some value) ↔
      flag ≠ "" ∧ checkNamespaceFlag flag = none ∧ value = flag ∨
        flag = "" ∧ promptForNamespace inputs = some (.entered value) := by
  unfold installNamespace
  by_cases given : flag = ""
  · simp [given, Option.bind_eq_some, PromptEnd.entry_eq_some]
  · cases checked : checkNamespaceFlag flag <;> simp [given, checked, eq_comm]

theorem installNamespace_eq_error {err : NamespaceError} :
    installNamespace flag inputs = .error err ↔ flag ≠ "" ∧ checkNamespaceFlag flag = some err := by
  unfold installNamespace
  by_cases given : flag = ""
  · simp [given]
  · cases checked : checkNamespaceFlag flag <;> simp [given, checked]

/-- Whatever namespace `InstallCmd` goes on with, from the flag or from the prompt, is of at most
    63 bytes of letters, digits, `-` and `.`, and starts and ends with a letter or a digit. -/
theorem installNamespace_accepted {flag : String} {inputs : List PromptInput} {value : String}
    (installed : installNamespace flag inputs = .ok (some value)) : acceptedNamespace value := by
  rw [← validate_eq_none_iff]
  rcases installNamespace_eq_ok.mp installed with ⟨filled, checked, rfl⟩ | ⟨-, prompted⟩
  · exact (checkNamespaceFlag_eq_validate filled).symm.trans checked
  · exact promptForNamespace_validated prompted

end Chosen

theorem prompted_namespace_accepted : acceptedNamespace "my.app" :=
  @installNamespace_accepted "" [.submit "my_app", .failure, .submit "my.app"] "my.app" rfl

end Kots.Cli
