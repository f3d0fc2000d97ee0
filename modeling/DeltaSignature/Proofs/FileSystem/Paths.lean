import DeltaSignature.FileSystem.Open
import DeltaSignature.Proofs.Failing
import Mathlib

/-!
# Paths and the places they name

A file is created where its path will lead, and no path leads to another place because of it: a new
file stands where there was no directory, so nothing that a path passes through has changed.
-/

namespace DeltaSignature

namespace FileSystem

variable {files created : FileSystem} {location start parent source : Location} {path name : String}
  {names : List String}

section Walking

theorem walk_append (files : FileSystem) (start : Location) (first second : List String) :
    files.walk start (first ++ second) = files.walk start first >>= (files.walk · second) :=
  List.foldlM_append

theorem walk_cons_eq_ok : files.walk start (name :: names) = .ok parent ↔
    ∃ next, files.step start name = .ok next ∧ files.walk next names = .ok parent := by
  rw [walk, List.foldlM_cons]
  exact bind_eq_ok

theorem enter_of_step {next : Location} (stepped : files.step start name = .ok next) :
    files.enter start = .ok () := by
  obtain ⟨⟨⟩, entered, -⟩ := bind_eq_ok.1 stepped
  exact entered

theorem step_of_empty (entered : files.enter start = .ok ()) : files.step start "" = .ok start := by
  rw [step, entered]
  rfl

/-- Whoever leaves a place, or may enter it in the end, may enter it. -/
theorem enter_of_walk (walked : files.walk start names = .ok parent)
    (entered : files.enter parent = .ok ()) : files.enter start = .ok () := by
  cases names with
  | nil =>
    obtain rfl := Except.ok.inj walked
    exact entered
  | cons name names =>
    obtain ⟨next, stepped, -⟩ := walk_cons_eq_ok.1 walked
    exact enter_of_step stepped

/-- Slashes that follow each other make no difference. -/
theorem walk_of_walk_filter (walked : files.walk start (names.filter (· ≠ "")) = .ok parent)
    (entered : files.enter parent = .ok ()) : files.walk start names = .ok parent := by
  induction names generalizing start with
  | nil => exact walked
  | cons name names ih =>
    by_cases empty : name = ""
    · subst empty
      rw [List.filter_cons_of_neg (by simp)] at walked
      exact walk_cons_eq_ok.2 ⟨start, step_of_empty (enter_of_walk walked entered), ih walked⟩
    · rw [List.filter_cons_of_pos (by simpa using empty)] at walked
      obtain ⟨next, stepped, walked⟩ := walk_cons_eq_ok.1 walked
      exact walk_cons_eq_ok.2 ⟨next, stepped, ih walked⟩

end Walking

section Putting

/-- A location at which no directory stands, so that a file may. -/
theorem get?_put_file (vacant : files.get? location ≠ some .directory) (entry : Entry) :
    (files.put location entry).get? location = some entry := by
  have elsewhere : ¬ location.isPrefixOf files.working = true := fun above => vacant (if_pos above)
  exact get?_put_self files entry (Bool.not_eq_true _ ▸ elsewhere)

theorem put_put (files : FileSystem) (location : Location) (first second : Entry) :
    (files.put location first).put location second = files.put location second := by
  simp [put, List.filter_filter]

theorem enter_put (vacant : files.get? location ≠ some .directory) (bytes : ByteArray)
    (entered : files.enter start = .ok ()) :
    (files.put location (.file bytes)).enter start = .ok () := by
  have elsewhere : start ≠ location := by
    rintro rfl
    unfold enter at entered
    split at entered
    next there => exact vacant there
    next => cases entered
    next => cases entered
  unfold enter at entered ⊢
  rwa [get?_put_of_ne files _ elsewhere]

theorem step_put (vacant : files.get? location ≠ some .directory) (bytes : ByteArray)
    {next : Location} (stepped : files.step start name = .ok next) :
    (files.put location (.file bytes)).step start name = .ok next := by
  obtain ⟨⟨⟩, entered, rest⟩ := bind_eq_ok.1 stepped
  exact bind_eq_ok.2 ⟨(), enter_put vacant bytes entered, rest⟩

/-- Every path leads where it led before a file was made. -/
theorem walk_put (vacant : files.get? location ≠ some .directory) (bytes : ByteArray)
    (walked : files.walk start names = .ok parent) :
    (files.put location (.file bytes)).walk start names = .ok parent := by
  induction names generalizing start with
  | nil => exact walked
  | cons name names ih =>
    obtain ⟨next, stepped, walked⟩ := walk_cons_eq_ok.1 walked
    exact walk_cons_eq_ok.2 ⟨next, step_put vacant bytes stepped, ih walked⟩

end Putting

section Creating

/-- A path names the place at which a file is made for it, and no directory stands there. -/
structure Leads (files : FileSystem) (path : String) (location : Location) : Prop where
  sound : checkPath path = .ok ()
  nonempty : path ≠ ""
  walked : files.walk (files.base path) (FileSystem.names path) = .ok location
  vacant : files.get? location ≠ some .directory

theorem names_empty : FileSystem.names "" = [""] := by
  cbv

/-- The last name is followed from where the others lead, whatever slashes stand between them. -/
theorem walk_of_shape {above : List String}
    (shape : (names.filter (· ≠ "")).reverse = name :: above)
    (walked : files.walk start above.reverse = .ok parent)
    (entered : files.enter parent = .ok ()) (closed : names.getLast? ≠ some "")
    (stepped : files.step parent name = .ok location) :
    files.walk start names = .ok location := by
  obtain rfl | ⟨init, last, rfl⟩ := names.eq_nil_or_concat
  · cases shape
  · rw [List.concat_eq_append] at shape closed ⊢
    have proper : last ≠ "" := by simpa using closed
    rw [List.filter_append, List.filter_cons_of_pos (by simpa using proper), List.filter_nil,
      List.reverse_append, List.reverse_singleton, List.singleton_append] at shape
    obtain ⟨rfl, rfl⟩ := List.cons.inj shape
    rw [List.reverse_reverse] at walked
    rw [walk_append, walk_of_walk_filter walked entered]
    exact walk_cons_eq_ok.2 ⟨location, stepped, rfl⟩

theorem leads_of_target (found : files.target path = .ok location) : files.Leads path location := by
  obtain ⟨⟨⟩, sound, found⟩ := bind_eq_ok.1 found
  split at found
  next => cases found
  next name above shape =>
    obtain ⟨parent, walked, found⟩ := bind_eq_ok.1 found
    obtain ⟨⟨⟩, entered, found⟩ := bind_eq_ok.1 found
    split at found
    next => cases found
    next plain =>
      obtain ⟨next, stepped, found⟩ := bind_eq_ok.1 found
      split at found
      next => cases found
      next vacant =>
        obtain rfl := Except.ok.inj found
        refine ⟨sound, ?_, walk_of_shape shape walked entered ?_ stepped, vacant⟩
        · rintro rfl
          rw [names_empty] at shape
          cases shape
        · exact fun slash => plain (.inr (.inr slash))

theorem locate_eq_ok_iff : files.locate path = .ok location ↔
    checkPath path = .ok () ∧ files.walk (files.base path) (FileSystem.names path) = .ok location ∧
      path ≠ "" ∧ (files.get? location).isSome = true := by
  constructor
  · intro located
    obtain ⟨⟨⟩, sound, located⟩ := bind_eq_ok.1 located
    obtain ⟨found, walked, located⟩ := bind_eq_ok.1 located
    split at located
    next there =>
      obtain rfl := Except.ok.inj located
      exact ⟨sound, walked, there⟩
    next => cases located
  · rintro ⟨sound, walked, there⟩
    exact bind_eq_ok.2 ⟨(), sound, bind_eq_ok.2 ⟨location, walked, if_pos there⟩⟩

theorem Leads.locate_eq (leads : files.Leads path location)
    (there : (files.get? location).isSome = true) : files.locate path = .ok location :=
  locate_eq_ok_iff.2 ⟨leads.sound, leads.walked, leads.nonempty, there⟩

theorem Leads.get?_eq_none (leads : files.Leads path location)
    (absent : files.pathExists path = false) : files.get? location = none := by
  cases there : files.get? location with
  | none => rfl
  | some entry =>
    rw [pathExists, leads.locate_eq (by rw [there]; rfl)] at absent
    cases absent

/-- The path leads to the same place when a file was made there. -/
theorem Leads.locate_put (leads : files.Leads path location) (bytes : ByteArray) :
    (files.put location (.file bytes)).locate path = .ok location := by
  refine locate_eq_ok_iff.2
    ⟨leads.sound, walk_put leads.vacant bytes leads.walked, leads.nonempty, ?_⟩
  rw [get?_put_file leads.vacant]
  rfl

theorem create_eq_ok (made : files.create path = .ok (location, created)) :
    files.Leads path location ∧ created = files.put location (.file .empty) := by
  obtain ⟨target, found, made⟩ := bind_eq_ok.1 made
  obtain ⟨⟨⟩, -, made⟩ := bind_eq_ok.1 made
  obtain ⟨rfl, rfl⟩ := Prod.mk.inj (Except.ok.inj made)
  exact ⟨leads_of_target found, rfl⟩

theorem locate_of_open? (opened : files.open? path = .ok source) :
    files.locate path = .ok source := by
  obtain ⟨found, located, opened⟩ := bind_eq_ok.1 opened
  obtain ⟨⟨⟩, -, opened⟩ := bind_eq_ok.1 opened
  obtain rfl := Except.ok.inj opened
  exact located

end Creating

section Content

/-- The content of the file that a path names. -/
def content? (files : FileSystem) (path : String) : Option ByteArray :=
  match files.locate path with
  | .ok location =>
    match files.get? location with
    | some (.file bytes) => some bytes
    | _ => none
  | .error _ => none

theorem content?_of_locate {bytes : ByteArray} (located : files.locate path = .ok location)
    (there : files.get? location = some (.file bytes)) : files.content? path = some bytes := by
  rw [content?, located]
  simp only [there]

theorem bytesAt_of_get? {bytes : ByteArray} (there : files.get? location = some (.file bytes)) :
    files.bytesAt location = bytes := by
  rw [bytesAt, there]

theorem bytesAt_put_of_ne (files : FileSystem) (entry : Entry) (elsewhere : source ≠ location) :
    (files.put location entry).bytesAt source = files.bytesAt source := by
  rw [bytesAt, bytesAt, get?_put_of_ne files entry elsewhere]

theorem faultAt_put_of_ne (files : FileSystem) (entry : Entry) (elsewhere : source ≠ location) :
    (files.put location entry).faultAt source = files.faultAt source := by
  rw [faultAt, faultAt, get?_put_of_ne files entry elsewhere]
  rfl

theorem get?_eq_file (there : (files.get? location).isSome = true)
    (vacant : files.get? location ≠ some .directory) :
    files.get? location = some (.file (files.bytesAt location)) := by
  unfold bytesAt
  split
  next bytes file => exact file
  next other =>
    obtain ⟨entry, found⟩ := Option.isSome_iff_exists.1 there
    cases entry with
    | file bytes => exact absurd found (other bytes)
    | directory => exact absurd found vacant

/-- What can be read to the end is no directory. -/
theorem ne_directory_of_readable (readable : files.faultAt location = none) :
    files.get? location ≠ some .directory := by
  intro directory
  rw [faultAt, directory] at readable
  cases readable

end Content

end FileSystem

end DeltaSignature
