import Mathlib.Data.List.Destutter
import ProjectScribe.Proofs.Storage.ParentDirectory

/-!
# What many writes leave

One file is written again and again. Of all that was asked for, two requests can be seen in the end:
the last one that brought a new content is the file, and the one that brought a new content before
it is the backup. A request for the content that is there already leaves no trace, and nor does
anything older. Going back to an old content is a change like every other.

This holds of a path that leaves room for the name of its backup. Without that room the first
content is written, and no other one ever takes its place. Nor does one take the place of a content
that was written with a mode that does not let it be read.
-/
namespace ProjectScribe.Storage

/-- A content to be written, and the mode asked for. -/
structure Request where
  content : Bytes
  mode : Option Nat

namespace Request

/-- The file that a request asks for. -/
def file (request : Request) : Entry := .file request.content (effectiveMode request.mode)

/-- A request for the file with a path, carried out on a tree. -/
def perform (request : Request) (output : String) (tree : FileTree) :
    Except AccessError WriteOutcome × FileTree :=
  (FileTask.writeIfChanged output request.content request.mode).perform tree

theorem perform_effect (request : Request) (output : String) (tree : FileTree) :
    FileTree.WriteEffect tree output request.content (effectiveMode request.mode)
      (request.perform output tree) :=
  FileTask.writeIfChanged_effect output request.content request.mode tree

end Request

/-- The tree that requests for the file with a path leave. -/
def FileTree.afterRequests (output : String) (tree : FileTree) (requests : List Request) :
    FileTree :=
  requests.foldl (fun tree request => (request.perform output tree).2) tree

/-- The last content that was asked for. -/
def lastContent? (requests : List Request) : Option Bytes := requests.getLast?.map (·.content)

/-- The requests for another content than the one before. -/
def changes (requests : List Request) : List Request :=
  requests.destutter fun before after => before.content ≠ after.content

section Changes

variable {requests : List Request} {request first second : Request}

theorem lastContent?_concat : lastContent? (requests ++ [request]) = some request.content := by
  simp [lastContent?]

theorem lastContent?_cons_congr (same : first.content = second.content) :
    lastContent? (first :: requests) = lastContent? (second :: requests) := by
  cases last : requests.getLast? <;> simp [lastContent?, List.getLast?_cons, last, same]

theorem lastContent?_cons_cons :
    lastContent? (first :: second :: requests) = lastContent? (second :: requests) := by
  simp [lastContent?]

/-- One more request is a change exactly if it asks for another content than the last one. -/
theorem changes_concat (requests : List Request) (request : Request) :
    changes (requests ++ [request]) =
      if lastContent? requests = some request.content then changes requests
      else changes requests ++ [request] := by
  cases requests with
  | nil => rfl
  | cons first rest =>
    simp only [changes, List.cons_append, List.destutter_cons']
    -- A request that is left out has the content of the change before it.
    induction rest generalizing first with
    | nil => by_cases same : first.content = request.content <;> simp [lastContent?, same]
    | cons second rest inductionHypothesis =>
      rw [List.cons_append, lastContent?_cons_cons]
      by_cases same : first.content = second.content
      · rw [List.destutter'_cons_neg _ (not_not_intro same),
          List.destutter'_cons_neg _ (not_not_intro same), inductionHypothesis,
          lastContent?_cons_congr same]
      · rw [List.destutter'_cons_pos _ same, List.destutter'_cons_pos _ same, inductionHypothesis]
        split <;> rfl

/-- The last content is that of the last change. -/
theorem lastContent?_changes (requests : List Request) :
    lastContent? (changes requests) = lastContent? requests := by
  induction requests using List.reverseRecOn with
  | nil => rfl
  | append_singleton requests request inductionHypothesis =>
    rw [changes_concat, lastContent?_concat]
    split
    · next same => exact inductionHypothesis.trans same
    · exact lastContent?_concat

theorem mem_changes_concat (listed : first ∈ changes requests) :
    first ∈ changes (requests ++ [request]) := by
  rw [changes_concat]
  split
  · exact listed
  · exact List.mem_append_left _ listed

theorem changes_eq_nil_iff : changes requests = [] ↔ requests = [] := List.destutter_eq_nil _

end Changes

namespace FileTree

variable {start tree : FileTree} {output name : String} {location kept other : Location}
  {above : List String} {request : Request}

section Place

/-- A path that a file can have beside its backup: the path of the backup is one that a file can
have, and its last name is a name and short enough. -/
structure Nameable (output : String) : Prop where
  usable : pathDefect (backupPath output) = none
  plain : endsWithSlash output = false
  named : ∃ above name, namesOf output = above ++ [name] ∧ name ≠ "." ∧ name ≠ ".." ∧
    (backupPath name).utf8ByteSize ≤ longestName

/-- Where a file and its backup are to stand. -/
structure Site (tree : FileTree) (output : String) (location kept : Location) : Prop where
  plain : endsWithSlash output = false
  leads : tree.address output = some location
  leadsBehind : tree.address (backupPath output) = some kept
  directory : ∃ directory, tree.directoryFor output = .ok directory

theorem Site.apart (site : Site tree output location kept) : kept ≠ location :=
  address_append_ne site.leads site.plain (by decide) (by decide) site.leadsBehind

theorem endsWithSlash_backupPath (output : String) : endsWithSlash (backupPath output) = false := by
  simp [endsWithSlash, backupPath, backupSuffix]

/-- A name with something longer than two dots behind it is neither a dot nor two. -/
theorem backupPath_ne_of_short {dots : String} (short : dots.length < 9) :
    backupPath name ≠ dots := by
  rintro rfl
  have size : (backupPath name).length = name.length + 9 := String.length_append ..
  omega

/-- A path whose last name is short enough has an address in a directory that exists. -/
theorem exists_address (within : tree.HasDirectory output) (usable : pathDefect output = none)
    (names : namesOf output = above ++ [name]) (here : name ≠ ".") (up : name ≠ "..")
    (short : name.utf8ByteSize ≤ longestName) :
    ∃ location, tree.address output = some location := by
  obtain ⟨others, last, directory, sameNames, led, stands⟩ := within
  have same := names
  rw [sameNames] at same
  obtain ⟨rfl, sameLast⟩ := List.append_inj' same rfl
  obtain rfl : last = name := List.head_eq_of_cons_eq sameLast
  have entered : tree.enter directory last = .ok (directory ++ [last]) := by
    rw [enter, stands, if_neg here, if_neg up, if_neg (Nat.not_lt.mpr short)]
    rfl
  exact ⟨directory ++ [last],
    address_eq_some_iff.mpr ⟨usable, others, last, directory, names, led, entered⟩⟩

/-- A path that a file can have beside its backup has a place for both in a directory that
exists. -/
theorem Nameable.site (nameable : Nameable output) (within : tree.HasDirectory output) :
    ∃ location kept, Site tree output location kept := by
  obtain ⟨above, name, names, here, up, short⟩ := nameable.named
  have filled : output ≠ "" := by
    rintro rfl
    exact absurd (congrArg List.length names) (by simp [namesOf, Path.segments, Text.pieces])
  have usable : pathDefect output = none :=
    pathDefect_of_append nameable.usable (String.toList_append ..) filled
  have room : name.utf8ByteSize ≤ longestName := by
    rw [backupPath, String.utf8ByteSize_append] at short
    omega
  obtain ⟨location, leads⟩ := exists_address within usable names here up room
  obtain ⟨kept, leadsBehind⟩ := exists_address
    (hasDirectory_append within nameable.plain (by decide)) nameable.usable
    (namesOf_append names nameable.plain (by decide)) (backupPath_ne_of_short (by decide))
    (backupPath_ne_of_short (by decide)) short
  exact ⟨location, kept, nameable.plain, leads, leadsBehind,
    directoryFor_of_hasDirectory within usable nameable.plain names here⟩

/-- A file is put at the address of its path. -/
theorem eq_of_slot (place : tree.slot output = .ok other)
    (leads : tree.address output = some location) : other = location :=
  Option.some.inj ((slot_eq_ok_iff.mp place).1.symm.trans leads)

/-- Nothing stands at the address of a path that leads nowhere. -/
theorem vacant_of_not_located (leads : tree.address output = some location)
    (plain : endsWithSlash output = false) (absent : ∀ other, tree.locate output ≠ .ok other) :
    tree.find? location = none := by
  cases held : tree.find? location with
  | none => rfl
  | some entry =>
    exact absurd (locate_of_address leads plain (by rw [held]; rfl)) (absent location)

end Place

section History

variable {history : List Request}

/-- What a tree became under a history of changes of one file: the last of them is the file, the
one before it is the backup, and everything else stands as at the start. -/
structure Shows (start : FileTree) (location kept : Location) (history : List Request)
    (tree : FileTree) : Prop where
  same : SameDirectories start tree
  current : tree.find? location = history.getLast?.map Request.file
  previous : tree.find? kept = history.dropLast.getLast?.map Request.file
  others : ∀ other, other ≠ location → other ≠ kept → tree.find? other = start.find? other

/-- Every request for the file with a path is refused, since what is there may not be read. -/
def RefusesAll (tree : FileTree) (output : String) : Prop :=
  ∀ request : Request,
    request.perform output tree = (.error (.read output .permissionDenied), tree)

theorem not_isDirectory_of_file {last : Option Request}
    (stands : tree.find? location = last.map Request.file) : tree.isDirectory location = false := by
  cases last <;> simp [isDirectory, stands, Request.file]

section Step

variable (site : Site start output location kept) (shows_ : Shows start location kept history tree)

include site shows_

/-- The file is what the last change made it. -/
theorem Shows.fileAt_eq_ok_iff {bytes : Bytes} {mode : Nat} :
    tree.fileAt output = .ok (bytes, mode) ↔
      ∃ last, history.getLast? = some last ∧ last.file = .file bytes mode := by
  rw [FileTree.fileAt_eq_ok_iff, shows_.same.address]
  constructor
  · rintro ⟨found, leads, -, stands⟩
    obtain rfl := Option.some.inj (site.leads.symm.trans leads)
    rw [shows_.current] at stands
    exact Option.map_eq_some_iff.mp stands
  · rintro ⟨last, ends, same⟩
    refine ⟨location, site.leads, site.plain, ?_⟩
    rw [shows_.current, ends, Option.map_some, same]

/-- After a change with a mode that does not let the file be read, every request is refused. -/
theorem Shows.refusesAll (ends : history.getLast? = some request)
    (unreadable : start.mayRead (effectiveMode request.mode) = false) : RefusesAll tree output := by
  have found := (shows_.fileAt_eq_ok_iff site).mpr ⟨request, ends, rfl⟩
  have denied : tree.read output = .error .permissionDenied := by
    rw [read_of_fileAt found, shows_.same.mayRead, unreadable]
    rfl
  intro next
  rw [Request.perform, FileTask.writeIfChanged, FileTask.perform_bind, FileTask.perform_ask,
    existing?, denied]

section Readable

variable (readable : ∀ last ∈ history.getLast?, start.mayRead (effectiveMode last.mode) = true)

include readable

/-- The file is read with the last content. -/
theorem Shows.read_eq_ok_iff {bytes : Bytes} :
    tree.read output = .ok bytes ↔ lastContent? history = some bytes := by
  rw [FileTree.read_eq_ok_iff]
  constructor
  · rintro ⟨mode, found, -⟩
    obtain ⟨last, ends, same⟩ := (shows_.fileAt_eq_ok_iff site).mp found
    rw [lastContent?, ends]
    exact congrArg some (Entry.file.inj same).1
  · intro last
    obtain ⟨request, ends, rfl⟩ := Option.map_eq_some_iff.mp last
    refine ⟨_, (shows_.fileAt_eq_ok_iff site).mpr ⟨request, ends, rfl⟩, ?_⟩
    rw [shows_.same.mayRead]
    exact readable request ends

/-- There is always room for another change. -/
theorem Shows.accepts : Accepts tree output := by
  constructor
  · obtain ⟨directory, found⟩ := site.directory
    exact ⟨directory, shows_.same.directoryFor found⟩
  · exact ⟨location, slot_eq_ok_iff.mpr ⟨(shows_.same.address output).trans site.leads, site.plain,
      not_isDirectory_of_file shows_.current⟩⟩
  · intro old mode found
    obtain ⟨last, ends, same⟩ := (shows_.fileAt_eq_ok_iff site).mp found
    rw [shows_.same.mayRead, ← (Entry.file.inj same).2]
    exact readable last ends
  · intro _ _
    exact ⟨kept, slot_eq_ok_iff.mpr ⟨(shows_.same.address _).trans site.leadsBehind,
      endsWithSlash_backupPath output, not_isDirectory_of_file shows_.previous⟩⟩

/-- A request for the last content changes nothing. -/
theorem Shows.perform_repeated (same : lastContent? history = some request.content) :
    request.perform output tree = (.ok .unchanged, tree) := by
  have present := (shows_.read_eq_ok_iff site readable).mpr same
  have effect := request.perform_effect output tree
  generalize request.perform output tree = performed at effect
  cases effect with
  | refused error differs => exact absurd present differs
  | unchanged => rfl
  | written differs => exact absurd present differs

end Readable

/-- What is written is the next change, and the last one before is kept. -/
theorem Shows.written {backup : Option String} {after : FileTree}
    (written : Written tree output request.content (effectiveMode request.mode) backup after) :
    backup = (if history = [] then none else some (backupPath output)) ∧
      Shows start location kept (history ++ [request]) after := by
  have same := shows_.same.trans written.sameDirectories
  have leads := (shows_.same.address output).trans site.leads
  have leadsBehind := (shows_.same.address (backupPath output)).trans site.leadsBehind
  cases written with
  | @new place _ leadsNew absent _ _ stands others =>
    obtain rfl := eq_of_slot leadsNew leads
    have first : history = [] := by
      rw [shows_.current] at absent
      simpa using absent
    subst first
    refine ⟨rfl, same, by rw [stands]; rfl, ?_, fun other away awayKept => ?_⟩
    · rw [others kept site.apart, shows_.previous]
      rfl
    · rw [others other away, shows_.others other away awayKept]
  | @replaced place behind _ _ _ leadsNew stood leadsNewBehind _ _ _ stands keeps others =>
    obtain rfl := eq_of_slot leadsNew leads
    obtain rfl := eq_of_slot leadsNewBehind leadsBehind
    have more : history ≠ [] := by
      rintro rfl
      rw [shows_.current] at stood
      cases stood
    refine ⟨(if_neg more).symm, same, ?_, ?_, fun other away awayKept => ?_⟩
    · rw [stands, List.getLast?_concat]
      rfl
    · rw [keeps, List.dropLast_concat, ← shows_.current, stood]
    · rw [others other away awayKept, shows_.others other away awayKept]

/-- A request for another content is the next change. -/
theorem Shows.perform_changed
    (readable : ∀ last ∈ history.getLast?, start.mayRead (effectiveMode last.mode) = true)
    (other : lastContent? history ≠ some request.content) :
    ∃ after, request.perform output tree =
        (.ok (.written (if history = [] then none else some (backupPath output))), after) ∧
      Shows start location kept (history ++ [request]) after := by
  have effect := request.perform_effect output tree
  generalize request.perform output tree = performed at effect
  cases effect with
  | refused error differs refuses => exact absurd (shows_.accepts site readable) refuses
  | unchanged present => exact absurd ((shows_.read_eq_ok_iff site readable).mp present) other
  | @written backup after differs accepts written =>
    obtain ⟨rfl, further⟩ := shows_.written site written
    exact ⟨after, rfl, further⟩

end Step

theorem afterRequests_cons (output : String) (start : FileTree) (request : Request)
    (requests : List Request) : start.afterRequests output (request :: requests) =
      (request.perform output start).2.afterRequests output requests := rfl

theorem afterRequests_append (output : String) (start : FileTree) (earlier later : List Request) :
    start.afterRequests output (earlier ++ later) =
      (start.afterRequests output earlier).afterRequests output later :=
  List.foldl_append

theorem afterRequests_concat (output : String) (start : FileTree) (requests : List Request)
    (request : Request) : start.afterRequests output (requests ++ [request]) =
      (request.perform output (start.afterRequests output requests)).2 :=
  afterRequests_append output start requests [request]

/-- A tree that refuses all requests stays as it is, however many there are. -/
theorem RefusesAll.afterRequests_eq (refuses : RefusesAll tree output) (requests : List Request) :
    tree.afterRequests output requests = tree := by
  induction requests with
  | nil => rfl
  | cons request rest inductionHypothesis =>
    rw [afterRequests_cons, refuses request]
    exact inductionHypothesis

/-- Whatever was asked for, the tree shows the changes if each of them can be read. -/
theorem Site.shows_changes (site : Site start output location kept)
    (vacant : start.find? location = none) (vacantBehind : start.find? kept = none)
    (requests : List Request)
    (readable : ∀ change ∈ changes requests, start.mayRead (effectiveMode change.mode) = true) :
    Shows start location kept (changes requests) (start.afterRequests output requests) := by
  induction requests using List.reverseRecOn with
  | nil => exact ⟨.refl start, vacant, vacantBehind, fun _ _ _ => rfl⟩
  | append_singleton requests request inductionHypothesis =>
    have readableBefore : ∀ change ∈ changes requests,
        start.mayRead (effectiveMode change.mode) = true :=
      fun change listed => readable change (mem_changes_concat listed)
    have shown := inductionHypothesis readableBefore
    have readableLast := fun last ends => readableBefore last (List.mem_of_getLast? ends)
    rw [afterRequests_concat, changes_concat, ← lastContent?_changes]
    by_cases same : lastContent? (changes requests) = some request.content
    · rw [if_pos same, shown.perform_repeated site readableLast same]
      exact shown
    · obtain ⟨after, performed, further⟩ := shown.perform_changed site readableLast same
      rw [if_neg same, performed]
      exact further

/-- Requests for a file in a directory that exists, where neither the file nor its backup is there
at the start, are all granted as long as each mode with which a content was written lets it be read.
A request for the content of the one before reports and changes nothing. Every other one is written,
and only the first of all without a backup. After any number of requests the file has the last
content with the mode of the request that brought it, the backup is what the file was before that
request, if it was anything, and nothing else has changed. A content that is written with a mode
that does not let it be read stays, since every later request is refused. -/
theorem writeIfChanged_history (nameable : Nameable output) (within : start.HasDirectory output)
    (absent : ∀ other, start.locate output ≠ .ok other)
    (absentBehind : ∀ other, start.locate (backupPath output) ≠ .ok other) :
    ∃ location kept, start.address output = some location ∧
      start.address (backupPath output) = some kept ∧ kept ≠ location ∧
      ∀ requests,
        (∀ change ∈ changes requests, start.mayRead (effectiveMode change.mode) = true) →
        Shows start location kept (changes requests) (start.afterRequests output requests) ∧
        (∀ bytes, (start.afterRequests output requests).read output = .ok bytes ↔
          lastContent? requests = some bytes) ∧
        ∀ request,
          (request.perform output (start.afterRequests output requests)).1 =
            .ok (if lastContent? requests = some request.content then .unchanged
              else .written (if requests = [] then none else some (backupPath output))) ∧
          (lastContent? requests = some request.content →
            start.afterRequests output (requests ++ [request]) =
              start.afterRequests output requests) ∧
          (lastContent? requests ≠ some request.content →
            start.mayRead (effectiveMode request.mode) = false → ∀ later,
              Shows start location kept (changes requests ++ [request])
                (start.afterRequests output (requests ++ request :: later)) ∧
              RefusesAll (start.afterRequests output (requests ++ request :: later)) output) := by
  obtain ⟨location, kept, site⟩ := nameable.site within
  have vacant := vacant_of_not_located site.leads site.plain absent
  have vacantBehind :=
    vacant_of_not_located site.leadsBehind (endsWithSlash_backupPath output) absentBehind
  refine ⟨location, kept, site.leads, site.leadsBehind, site.apart, fun requests readable => ?_⟩
  have shown := site.shows_changes vacant vacantBehind requests readable
  have readableLast := fun last ends => readable last (List.mem_of_getLast? ends)
  refine ⟨shown, fun bytes => ?_, fun request => ?_⟩
  · rw [shown.read_eq_ok_iff site readableLast, lastContent?_changes]
  · rw [afterRequests_concat, ← lastContent?_changes]
    by_cases same : lastContent? (changes requests) = some request.content
    · rw [shown.perform_repeated site readableLast same, if_pos same]
      exact ⟨rfl, fun _ => rfl, fun other => absurd same other⟩
    · obtain ⟨after, performed, further⟩ := shown.perform_changed site readableLast same
      rw [performed, if_neg same]
      simp only [changes_eq_nil_iff]
      refine ⟨trivial, fun repeated => absurd repeated same, fun _ unreadable later => ?_⟩
      have refuses := further.refusesAll site List.getLast?_concat unreadable
      have stays : start.afterRequests output (requests ++ request :: later) = after := by
        rw [afterRequests_append, afterRequests_cons, performed]
        exact refuses.afterRequests_eq later
      rw [stays]
      exact ⟨further, refuses⟩

/-- A tree with one directory. -/
def oneDirectory : FileTree := { entries := [(["d"], .directory)], home := [] }

/-- A content that comes back, after one that was asked for twice. -/
def backAgain : List Request := [⟨[1], none⟩, ⟨[2], some 0o600⟩, ⟨[2], none⟩, ⟨[1], none⟩]

/-- Of a content that comes back, the one in between is the backup. What is written after it with
no right to read stays. -/
theorem writeIfChanged_history_and_back :
    Nameable "d/out" ∧ oneDirectory.HasDirectory "d/out" ∧
      (∀ other, oneDirectory.locate "d/out" ≠ .ok other) ∧
      (∀ other, oneDirectory.locate (backupPath "d/out") ≠ .ok other) ∧
      (∀ change ∈ changes backAgain, oneDirectory.mayRead (effectiveMode change.mode) = true) ∧
      ∃ location kept,
        let after := oneDirectory.afterRequests "d/out" backAgain
        after.find? location = some (.file [1] 0o644) ∧
          after.find? kept = some (.file [2] 0o600) ∧
          ∀ later, RefusesAll (oneDirectory.afterRequests "d/out"
            (backAgain ++ ⟨[3], some 0o200⟩ :: later)) "d/out" := by
  have nameable : Nameable "d/out" :=
    ⟨by decide, by decide, ["d"], "out", by decide, by decide, by decide, by decide⟩
  have within : oneDirectory.HasDirectory "d/out" :=
    ⟨["d"], "out", ["d"], by decide, by decide, by decide⟩
  have absent : oneDirectory.locate "d/out" = .error .notFound := by decide
  have absentBehind : oneDirectory.locate (backupPath "d/out") = .error .notFound := by decide
  have leadsNowhere : ∀ other, oneDirectory.locate "d/out" ≠ .ok other := by simp [absent]
  have leadsNowhereBehind : ∀ other, oneDirectory.locate (backupPath "d/out") ≠ .ok other := by
    simp [absentBehind]
  have readable : ∀ change ∈ changes backAgain,
      oneDirectory.mayRead (effectiveMode change.mode) = true := by decide
  refine ⟨nameable, within, leadsNowhere, leadsNowhereBehind, readable, ?_⟩
  obtain ⟨location, kept, -, -, -, holds⟩ :=
    writeIfChanged_history nameable within leadsNowhere leadsNowhereBehind
  obtain ⟨shown, -, further⟩ := holds backAgain readable
  obtain ⟨-, -, stays⟩ := further ⟨[3], some 0o200⟩
  exact ⟨location, kept, shown.current, shown.previous,
    fun later => (stays (by decide) (by decide) later).2⟩

end History

section NoRoom

/-- A path that a file can have, but not beside its backup: with what follows it in the name of the
backup, its last name is too long. -/
structure Cramped (output : String) : Prop where
  usable : pathDefect output = none
  plain : endsWithSlash output = false
  named : ∃ above name, namesOf output = above ++ [name] ∧ name ≠ "." ∧ name ≠ ".." ∧
    name.utf8ByteSize ≤ longestName ∧ longestName < (backupPath name).utf8ByteSize

/-- There is no place for a backup whose name is too long. -/
theorem Cramped.no_slot (cramped : Cramped output) : tree.slot (backupPath output) ≠ .ok kept := by
  intro place
  obtain ⟨above, name, names, -, -, -, long⟩ := cramped.named
  obtain ⟨-, others, last, directory, sameNames, -, entered⟩ :=
    address_eq_some_iff.mp (slot_eq_ok_iff.mp place).1
  rw [backupPath, namesOf_append names cramped.plain (by decide)] at sameNames
  obtain rfl : backupPath name = last :=
    List.head_eq_of_cons_eq (List.append_inj' sameNames rfl).2
  have here : backupPath name ≠ "." := backupPath_ne_of_short (by decide)
  have up : backupPath name ≠ ".." := backupPath_ne_of_short (by decide)
  rw [enter, if_neg here, if_neg up, if_pos long] at entered
  split at entered <;> cases entered

/-- Such a file is never replaced: a request for another content is refused. -/
theorem Cramped.perform_request (cramped : Cramped output) {old : Bytes} {mode : Nat}
    (found : tree.fileAt output = .ok (old, mode)) (request : Request) :
    (request.perform output tree).2 = tree ∧
      (request.content ≠ old → ∃ error, (request.perform output tree).1 = .error error) := by
  have effect := request.perform_effect output tree
  generalize request.perform output tree = performed at effect
  cases effect with
  | refused error => exact ⟨rfl, fun _ => ⟨error, rfl⟩⟩
  | unchanged present =>
    obtain ⟨otherMode, same, -⟩ := read_eq_ok_iff.mp present
    rw [found] at same
    exact ⟨rfl, fun other => absurd (congrArg Prod.fst (Except.ok.inj same)).symm other⟩
  | written differs accepts =>
    have present := read_eq_ok_iff.mpr ⟨mode, found, accepts.readable old mode found⟩
    obtain ⟨kept, place⟩ := accepts.backup old present
    exact absurd place cramped.no_slot

/-- However many requests follow, the tree stays as it was. -/
theorem Cramped.afterRequests_eq (cramped : Cramped output) {old : Bytes} {mode : Nat}
    (found : tree.fileAt output = .ok (old, mode)) (requests : List Request) :
    tree.afterRequests output requests = tree := by
  induction requests with
  | nil => rfl
  | cons request rest inductionHypothesis =>
    rw [afterRequests_cons, (cramped.perform_request found request).1]
    exact inductionHypothesis

/-- Without room for the name of the backup, the first content is written and stays for good. -/
theorem Cramped.first_stays (cramped : Cramped output) (within : start.HasDirectory output)
    (absent : ∀ other, start.locate output ≠ .ok other) (first : Request)
    (requests : List Request) :
    (first.perform output start).1 = .ok (.written none) ∧
      (start.afterRequests output (first :: requests)).fileAt output =
        .ok (first.content, effectiveMode first.mode) ∧
      ∀ request : Request, request.content ≠ first.content →
        ∃ error, (request.perform output
          (start.afterRequests output (first :: requests))).1 = .error error := by
  obtain ⟨above, name, names, here, up, short, -⟩ := cramped.named
  obtain ⟨location, leads⟩ := exists_address within cramped.usable names here up short
  have vacant := vacant_of_not_located leads cramped.plain absent
  have missing : start.read output = .error .notFound := read_eq_notFound leads vacant
  have accepts : Accepts start output := by
    constructor
    · exact directoryFor_of_hasDirectory within cramped.usable cramped.plain names here
    · exact ⟨location, slot_eq_ok_iff.mpr ⟨leads, cramped.plain, by simp [isDirectory, vacant]⟩⟩
    · intro old mode found
      rw [read_of_fileAt found] at missing
      split at missing <;> cases missing
    · intro old present
      rw [missing] at present
      cases present
  rw [afterRequests_cons]
  have effect := first.perform_effect output start
  generalize first.perform output start = performed at effect
  cases effect with
  | refused _ _ refuses => exact absurd accepts refuses
  | unchanged present =>
    rw [missing] at present
    cases present
  | @written _ after _ _ written =>
    have found := written.fileAt_output
    have stays : after.afterRequests output requests = after :=
      cramped.afterRequests_eq found requests
    refine ⟨?_, ?_, fun request => ?_⟩
    · cases written with
      | new => rfl
      | replaced leadsThere stood =>
        obtain rfl := eq_of_slot leadsThere leads
        rw [vacant] at stood
        cases stood
    · rw [stays]
      exact found
    · rw [stays]
      exact (cramped.perform_request found request).2

/-- A name with any number of bytes. -/
def lettersName (n : Nat) : String := String.ofList (List.replicate n 'a')

theorem utf8ByteSize_lettersName (n : Nat) : (lettersName n).utf8ByteSize = n := by
  unfold lettersName
  induction n with
  | zero => rfl
  | succ n inductionHypothesis =>
    have one : (String.singleton 'a').utf8ByteSize = 1 := by decide
    rw [List.replicate_succ, String.ofList_cons, String.utf8ByteSize_append, one,
      inductionHypothesis, Nat.add_comm]

theorem lettersName_ne {n : Nat} {text : String} (shorter : text.utf8ByteSize < n) :
    lettersName n ≠ text := by
  rintro rfl
  rw [utf8ByteSize_lettersName] at shorter
  exact Nat.lt_irrefl n shorter

theorem namesOf_lettersName {n : Nat} (filled : n ≠ 0) :
    namesOf (lettersName n) = [] ++ [lettersName n] := by
  have plain : ∀ c ∈ List.replicate n 'a', (c == '/') = false := by
    intro c listed
    rw [List.eq_of_mem_replicate listed]
    rfl
  rw [namesOf_eq, Path.segments, lettersName, String.toList_ofList, Text.pieces_of_plain _ _ plain]
  exact namesIn_singleton (by simpa using filled)

/-- A name that falls short of the longest by no more than eight bytes leaves no room for that of
its backup. -/
theorem cramped_lettersName {n : Nat} (long : 246 < n) (short : n ≤ 255) :
    Cramped (lettersName n) := by
  have size := utf8ByteSize_lettersName n
  have other : ∀ text : String, text.utf8ByteSize < 247 → lettersName n ≠ text :=
    fun text few => lettersName_ne (by omega)
  have fits : (lettersName n).utf8ByteSize ≤ longestName := by
    rw [size]
    exact short
  have cramps : longestName < (backupPath (lettersName n)).utf8ByteSize := by
    have suffix : backupSuffix.utf8ByteSize = 9 := by decide
    rw [backupPath, String.utf8ByteSize_append, size, suffix, longestName]
    omega
  refine ⟨?_, by simp [endsWithSlash, lettersName, List.getLast?_replicate], [], lettersName n,
    namesOf_lettersName (by omega), other "." (by decide), other ".." (by decide), fits, cramps⟩
  have clean : ¬ (lettersName n).toList.contains '\x00' = true := by
    simp [lettersName]
  have inPath : ¬ longestPath < (lettersName n).utf8ByteSize := by
    rw [size, longestPath]
    omega
  rw [pathDefect, if_neg clean, if_neg (other "" (by decide)), if_neg inPath]

/-- In a tree without entries a name leads nowhere. -/
theorem not_located_of_no_entries (names : namesOf output = [] ++ [name]) (here : name ≠ ".")
    (up : name ≠ "..") :
    ∀ other, ({ entries := [], home := [] } : FileTree).locate output ≠ .ok other := by
  intro other located
  obtain ⟨-, led, -⟩ := locate_eq_ok_iff.mp located
  rw [names] at led
  obtain ⟨next, stepped, -⟩ := follow_cons_eq_ok_iff.mp led
  obtain ⟨entered, stands⟩ := step_eq_ok_iff.mp stepped
  obtain rfl := eq_append_of_enter entered here up
  simp [find?] at stands

/-- In a tree without entries, a file whose name has two hundred and fifty bytes is written once: no
other content takes the place of the first. -/
theorem longName_written_once :
    let start : FileTree := { entries := [], home := [] }
    let output := lettersName 250
    start.HasDirectory output ∧ (∀ other, start.locate output ≠ .ok other) ∧
      (∀ other, start.locate (backupPath output) ≠ .ok other) ∧
      ∃ error, (Request.perform ⟨[2], none⟩ output
        (start.afterRequests output [⟨[1], none⟩])).1 = .error error := by
  intro start output
  have cramped : Cramped output := cramped_lettersName (by decide) (by decide)
  have names : namesOf output = [] ++ [output] := namesOf_lettersName (by decide)
  have home : start.startOf output = [] := ite_self []
  have within : start.HasDirectory output := ⟨[], output, [], names, congrArg Except.ok home, rfl⟩
  have absent := not_located_of_no_entries names (lettersName_ne (by decide))
    (lettersName_ne (by decide))
  have absentBehind := not_located_of_no_entries
    (namesOf_append names cramped.plain (by decide : '/' ∉ backupSuffix.toList))
    (backupPath_ne_of_short (by decide)) (backupPath_ne_of_short (by decide))
  obtain ⟨-, -, refused⟩ := cramped.first_stays within absent ⟨[1], none⟩ []
  exact ⟨within, absent, absentBehind, refused ⟨[2], none⟩ (by decide)⟩

end NoRoom

end FileTree

end ProjectScribe.Storage
