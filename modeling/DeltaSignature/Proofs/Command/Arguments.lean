import DeltaSignature.Command.Arguments
import DeltaSignature.Proofs.Failing

/-!
# What an accepted command line may ask for

A parser of command lines hands on only lengths that the readers of its options accept, or the
standard ones, and these are lengths that a signature can have.  The parser here reads word by word:
no step takes a length that its reader refuses, so none comes out of a command line that is accepted
as a whole.
-/

namespace DeltaSignature

theorem Size.parseBlockLength?_eq_ok_iff {text : String} {length : Nat} :
    parseBlockLength? text = .ok length ↔
      parse? text = .ok length ∧ 0 < length ∧ length < 0x8000_0000 := by
  unfold parseBlockLength?
  cases parse? text with
  | error cause => simp
  | ok size =>
    simp only [Except.ok.injEq]
    constructor
    · intro parsed
      split at parsed
      next => cases parsed
      next nonzero =>
        split at parsed
        next small =>
          obtain rfl := Except.ok.inj parsed
          exact ⟨rfl, Nat.pos_of_ne_zero nonzero, small⟩
        next => cases parsed
    · rintro ⟨rfl, positive, small⟩
      rw [if_neg (Nat.ne_of_gt positive), if_pos small]

namespace Command

theorem parseStrongLength?_eq_ok {text : String} {length : Nat}
    (parsed : parseStrongLength? text = .ok length) : length ≤ maxStrongLength := by
  unfold parseStrongLength? at parsed
  split at parsed
  next => cases parsed
  next value read =>
    split at parsed
    next => cases parsed
    next inside =>
      obtain rfl := Except.ok.inj parsed
      omega

/-- A command line that is accepted asks for a block length that is the standard one or was read as
one, and for a strong sum that is not too long. -/
structure Honours {ε : Type} (parse : List String → Except ε Options) : Prop where
  blockLength_of : ∀ {arguments options basis signature toStandardOutput blockLength strongLength},
    parse arguments = .ok options →
    options.task = .sign basis signature toStandardOutput blockLength strongLength →
    blockLength = Layout.standard.blockLength ∨
      ∃ text, Size.parseBlockLength? text = .ok blockLength
  strongLength_le : ∀ {arguments options basis signature toStandardOutput blockLength strongLength},
    parse arguments = .ok options →
    options.task = .sign basis signature toStandardOutput blockLength strongLength →
    strongLength ≤ maxStrongLength

/-- A command line that asks for a signature asks for one that there can be. -/
theorem Honours.lengths {ε : Type} {parse : List String → Except ε Options}
    (honours : Honours parse) {arguments : List String} {options : Options}
    {basis signature : Option String} {toStandardOutput : Bool} {blockLength strongLength : Nat}
    (accepted : parse arguments = .ok options)
    (task : options.task = .sign basis signature toStandardOutput blockLength strongLength) :
    0 < blockLength ∧ blockLength < 0x8000_0000 ∧ strongLength ≤ maxStrongLength := by
  rw [← and_assoc]
  refine ⟨?_, honours.strongLength_le accepted task⟩
  obtain rfl | ⟨text, parsed⟩ := honours.blockLength_of accepted task
  · decide
  · exact (Size.parseBlockLength?_eq_ok_iff.1 parsed).2

namespace Given

/-- The lengths that were taken are ones that their readers accept. -/
structure Checked (given : Given) : Prop where
  blockLength : ∀ length, given.blockLength = some length →
    ∃ text, Size.parseBlockLength? text = .ok length
  strongLength : ∀ length, given.strongLength = some length → length ≤ maxStrongLength

variable {given next : Given} {level : Option Verb} {setting : Setting} {text word : String}

theorem checked_blank : Checked {} :=
  ⟨nofun, nofun⟩

theorem Checked.assign (checked : given.Checked) (assigned : given.assign setting text = .ok next) :
    next.Checked := by
  cases setting with
  | blockLength =>
    simp only [Given.assign] at assigned
    split at assigned
    next => cases assigned
    next =>
      split at assigned
      next length parsed =>
        obtain rfl := Except.ok.inj assigned
        refine ⟨fun taken same => ?_, checked.strongLength⟩
        obtain rfl := Option.some.inj same
        exact ⟨text, parsed⟩
      next => cases assigned
  | strongLength =>
    simp only [Given.assign] at assigned
    split at assigned
    next => cases assigned
    next =>
      split at assigned
      next length parsed =>
        obtain rfl := Except.ok.inj assigned
        refine ⟨checked.blockLength, fun taken same => ?_⟩
        obtain rfl := Option.some.inj same
        exact parseStrongLength?_eq_ok parsed
      next => cases assigned

theorem Checked.settle (checked : given.Checked) (settled : given.settle level = .ok next) :
    next.Checked := by
  unfold Given.settle at settled
  split at settled
  next =>
    obtain rfl := Except.ok.inj settled
    exact ⟨checked.blockLength, checked.strongLength⟩
  next => cases settled
  next =>
    have checkedSettled : Checked { given with pending := .nothing } :=
      ⟨checked.blockLength, checked.strongLength⟩
    exact checkedSettled.assign settled
  next =>
    split at settled
    next => cases settled
    next =>
      obtain rfl := Except.ok.inj settled
      exact ⟨checked.blockLength, checked.strongLength⟩

theorem Checked.addFlag (checked : given.Checked) {flag : Flag}
    (added : given.addFlag level flag = .ok next) : next.Checked := by
  obtain ⟨settled, settles, added⟩ := bind_eq_ok.1 added
  have checkedSettled := checked.settle settles
  split at added
  next => cases added
  next => cases added
  next =>
    split at added
    next => cases added
    next =>
      obtain rfl := Except.ok.inj added
      exact ⟨checkedSettled.blockLength, checkedSettled.strongLength⟩

theorem Checked.addSetting (checked : given.Checked) {value : Option String}
    (added : given.addSetting level setting value = .ok next) : next.Checked := by
  obtain ⟨settled, settles, added⟩ := bind_eq_ok.1 added
  have checkedSettled := checked.settle settles
  split at added
  next => exact checkedSettled.assign added
  next =>
    obtain rfl := Except.ok.inj added
    exact ⟨checkedSettled.blockLength, checkedSettled.strongLength⟩

theorem Checked.addLetters (checked : given.Checked) {letters : List Char}
    (added : given.addLetters level letters = .ok next) : next.Checked := by
  induction letters generalizing given with
  | nil =>
    obtain rfl := Except.ok.inj added
    exact checked
  | cons letter letters ih =>
    unfold Given.addLetters at added
    split at added
    next =>
      obtain ⟨flagged, flags, added⟩ := bind_eq_ok.1 added
      exact ih (checked.addFlag flags) added
    next =>
      split at added
      next => exact checked.addSetting added
      next => cases added

theorem Checked.addLong (checked : given.Checked) {name : List Char}
    (added : given.addLong level name = .ok next) : next.Checked := by
  unfold Given.addLong at added
  simp only at added
  split at added
  next =>
    split at added
    next => exact checked.addFlag added
    next => cases added
  next =>
    split at added
    next => exact checked.addSetting added
    next => cases added

theorem Checked.takePath (checked : given.Checked) (taken : given.takePath level text = .ok next) :
    next.Checked := by
  obtain ⟨settled, settles, taken⟩ := bind_eq_ok.1 taken
  obtain rfl := Except.ok.inj taken
  have checkedSettled := checked.settle settles
  exact ⟨checkedSettled.blockLength, checkedSettled.strongLength⟩

theorem Checked.addPath (checked : given.Checked) (added : given.addPath level text = .ok next) :
    next.Checked := by
  unfold Given.addPath at added
  split at added
  next =>
    obtain rfl := Except.ok.inj added
    exact ⟨checked.blockLength, checked.strongLength⟩
  next => exact checked.takePath added
  next =>
    split at added
    next => cases added
    next => exact checked.takePath added

theorem Checked.addWord (checked : given.Checked) (added : addWord level given word = .ok next) :
    next.Checked := by
  unfold Given.addWord at added
  split at added
  next => exact checked.addPath added
  next =>
    split at added
    next =>
      obtain rfl := Except.ok.inj added
      exact ⟨checked.blockLength, checked.strongLength⟩
    next => exact checked.addLong added
    next => exact checked.addLetters added
    next =>
      split at added
      next =>
        obtain rfl := Except.ok.inj added
        exact ⟨checked.blockLength, checked.strongLength⟩
      next => exact checked.addPath added

theorem checked_of_ofWords {verb : Verb} {words : List String}
    (accepted : ofWords verb words = .ok given) : given.Checked := by
  obtain ⟨read, reads, accepted⟩ := bind_eq_ok.1 accepted
  obtain ⟨settled, settles, accepted⟩ := bind_eq_ok.1 accepted
  obtain ⟨⟨⟩, -, accepted⟩ := bind_eq_ok.1 accepted
  split at accepted
  next => cases accepted
  next =>
    obtain rfl := Except.ok.inj accepted
    have checkedRead := foldlM_preserves (fun added checked => checked.addWord added) reads
      checked_blank
    exact checkedRead.settle settles

end Given

theorem exists_given_of_readWords {given : Given} {words : List String} {options : Options}
    (accepted : readWords given words = .ok options) :
    ∃ before behind verb rest, Given.ofWords verb rest = .ok behind ∧
      options = Given.options before behind verb := by
  induction words generalizing given with
  | nil => cases accepted
  | cons word words ih =>
    unfold readWords at accepted
    split at accepted
    next => cases accepted
    next =>
      split at accepted
      next verb named =>
        obtain ⟨behind, read, accepted⟩ := bind_eq_ok.1 accepted
        obtain ⟨⟨⟩, -, accepted⟩ := bind_eq_ok.1 accepted
        obtain rfl := Except.ok.inj accepted
        exact ⟨given, behind, verb, words, read, rfl⟩
      next =>
        split at accepted
        next => cases accepted
        next =>
          split at accepted
          next =>
            obtain ⟨next, added, accepted⟩ := bind_eq_ok.1 accepted
            exact ih accepted
          next => cases accepted

/-- What a command for a signature asks for was checked when it was taken. -/
theorem exists_checked_of_ofArguments? {arguments : List String} {options : Options}
    {basis signature : Option String} {toStandardOutput : Bool} {blockLength strongLength : Nat}
    (accepted : Options.ofArguments? arguments = .ok options)
    (task : options.task = .sign basis signature toStandardOutput blockLength strongLength) :
    ∃ behind : Given, behind.Checked ∧
      blockLength = behind.blockLength.getD Layout.standard.blockLength ∧
      strongLength = behind.strongLength.getD Layout.standard.strongLength := by
  obtain ⟨before, behind, verb, rest, read, rfl⟩ := exists_given_of_readWords accepted
  cases verb with
  | inspect | config => cases task
  | signature =>
    obtain ⟨-, -, -, rfl, rfl⟩ := Task.sign.inj task
    exact ⟨behind, Given.checked_of_ofWords read, rfl, rfl⟩

theorem honours_ofArguments? : Honours Options.ofArguments? where
  blockLength_of accepted task := by
    obtain ⟨behind, checked, rfl, -⟩ := exists_checked_of_ofArguments? accepted task
    cases given : behind.blockLength with
    | none => exact .inl rfl
    | some length => exact .inr (checked.blockLength length given)
  strongLength_le accepted task := by
    obtain ⟨behind, checked, -, rfl⟩ := exists_checked_of_ofArguments? accepted task
    cases given : behind.strongLength with
    | none => decide
    | some length => exact checked.strongLength length given

end Command

end DeltaSignature
