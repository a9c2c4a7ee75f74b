import Parley.Proofs.Merging
import Parley.Topic.Directory

/-!
# The order in which directories are listed

The entries of a directory come in no particular order. The files of content are collected as they
come and then sorted by their paths, which are different because no two entries of a directory have
the same name. So trees that differ in the listing of their directories come to the same files in
the same order, and hence to the same registry. A file that cannot be used is passed over; but a
record whose reading is broken off by a fault breaks off the whole, and then there is no registry.
-/

namespace Parley

namespace FileNode

/-! ### Trees and their listings -/

mutual

/-- The same tree, with the entries of its directories listed in another order. -/
inductive Relisted : FileNode → FileNode → Prop
  | file (bytes : ByteArray) : Relisted (.file bytes) (.file bytes)
  | unreadable : Relisted .unreadable .unreadable
  | directory {entries entries' listed : List (String × FileNode)}
      (below : RelistedIn entries entries') (order : entries'.Perm listed) :
      Relisted (.directory entries) (.directory listed)

/-- The same entries in the same order, but with other listings below them. -/
inductive RelistedIn : List (String × FileNode) → List (String × FileNode) → Prop
  | nil : RelistedIn [] []
  | cons {name : String} {node node' : FileNode} {rest rest' : List (String × FileNode)}
      (first : Relisted node node') (later : RelistedIn rest rest') :
      RelistedIn ((name, node) :: rest) ((name, node') :: rest')

end

/-- The entries of every directory have different names. -/
inductive Distinct : FileNode → Prop
  | file (bytes : ByteArray) : Distinct (.file bytes)
  | unreadable : Distinct .unreadable
  | directory {entries : List (String × FileNode)}
      (names : entries.Pairwise fun entry entry' => entry.1 ≠ entry'.1)
      (below : ∀ entry ∈ entries, Distinct entry.2) : Distinct (.directory entries)

/-- A path leads from a node to another one through the entries of directories. -/
inductive Leads : FileNode → List String → FileNode → Prop
  | here (node : FileNode) : Leads node [] node
  | into {entries : List (String × FileNode)} {entry : String × FileNode} {path : List String}
      {node : FileNode} (mem : entry ∈ entries) (onward : Leads entry.2 path node) :
      Leads (.directory entries) (entry.1 :: path) node

/-- What a path ends in is a file of content: it is no directory, and has the name of one. -/
structure IsContentFile (path : List String) (node : FileNode) : Prop where
  leaf : ∀ entries, node ≠ .directory entries
  named : ∃ name ∈ path.getLast?, isContent name = true

/-! ### The files that are collected -/

theorem contentFilesIn_eq (path : List String) (entries : List (String × FileNode)) :
    contentFilesIn path entries = entries.flatMap (contentFilesAt path) := by
  induction entries with
  | nil => simp [contentFilesIn]
  | cons entry rest ih => simp [contentFilesIn, ih]

/-- A leaf is collected if it has the name of a file of content. -/
theorem mem_leaf_iff {path : List String} {name : String} {node : FileNode}
    (leaf : ∀ entries, node ≠ .directory entries) {f : List String × FileNode} :
    f ∈ (if isContent name then [(path ++ [name], node)] else []) ↔
      ∃ names, f.1 = path ++ name :: names ∧ node.Leads names f.2 ∧
        IsContentFile (name :: names) f.2 := by
  constructor
  · intro mem
    split at mem
    · obtain rfl := List.mem_singleton.1 mem
      exact ⟨[], rfl, .here node, leaf, name, rfl, ‹_›⟩
    · cases mem
  · rintro ⟨names, same, leads, file⟩
    cases leads with
    | here =>
      have named : isContent name = true := by simpa using file.named
      rw [if_pos named]
      exact List.mem_singleton.2 (Prod.ext same rfl)
    | into => exact absurd rfl (leaf _)

mutual

/-- The files that are collected from a directory are those to which a path leads. -/
theorem mem_contentFilesIn_iff : ∀ (entries : List (String × FileNode)) (path : List String)
    (f : List String × FileNode), f ∈ contentFilesIn path entries ↔
      ∃ entry ∈ entries, ∃ names, f.1 = path ++ entry.1 :: names ∧ entry.2.Leads names f.2 ∧
        IsContentFile (entry.1 :: names) f.2
  | [], path, f => by simp [contentFilesIn]
  | entry :: rest, path, f => by
    rw [contentFilesIn, List.mem_append, mem_contentFilesAt_iff entry path f,
      mem_contentFilesIn_iff rest path f]
    simp only [List.mem_cons, exists_eq_or_imp]

/-- The files that are collected below an entry are those to which its names lead and whose names
are those of content. -/
theorem mem_contentFilesAt_iff : ∀ (entry : String × FileNode) (path : List String)
    (f : List String × FileNode), f ∈ contentFilesAt path entry ↔
      ∃ names, f.1 = path ++ entry.1 :: names ∧ entry.2.Leads names f.2 ∧
        IsContentFile (entry.1 :: names) f.2
  | (name, .directory entries), path, (p, node) => by
    rw [contentFilesAt, mem_contentFilesIn_iff entries (path ++ [name]) (p, node)]
    constructor
    · rintro ⟨entry, mem, names, same, leads, file⟩
      refine ⟨entry.1 :: names, by simpa using same, .into mem leads, file.leaf, ?_⟩
      simpa using file.named
    · rintro ⟨names, same, leads, file⟩
      cases leads with
      | here => exact absurd rfl (file.leaf _)
      | into mem onward =>
        refine ⟨_, mem, _, by simpa using same, onward, file.leaf, ?_⟩
        simpa using file.named
  | (name, .file bytes), path, f => by
    rw [contentFilesAt]
    exact mem_leaf_iff (by simp)
  | (name, .unreadable), path, f => by
    rw [contentFilesAt]
    exact mem_leaf_iff (by simp)

end

/-- The collected files are those to which a path leads. -/
theorem mem_contentFiles_iff {entries : List (String × FileNode)} {f : List String × FileNode} :
    f ∈ contentFiles [] (.directory entries) ↔
      (directory entries).Leads f.1 f.2 ∧ IsContentFile f.1 f.2 := by
  obtain ⟨path, node⟩ := f
  rw [contentFiles, mem_contentFilesIn_iff]
  constructor
  · rintro ⟨entry, mem, names, rfl, leads, file⟩
    exact ⟨.into mem leads, file⟩
  · rintro ⟨leads, file⟩
    cases leads with
    | here => exact absurd rfl (file.leaf entries)
    | into mem onward => exact ⟨_, mem, _, rfl, onward, file⟩

/-! ### Their paths -/

theorem contentFilesAt_directory (path : List String) (name : String)
    (entries : List (String × FileNode)) :
    contentFilesAt path (name, .directory entries) =
      contentFiles (path ++ [name]) (.directory entries) := by
  rw [contentFilesAt, contentFiles]

/-- No two files are collected under the same path. -/
theorem Distinct.paths_differ {node : FileNode} (h : node.Distinct) (path : List String) :
    (contentFiles path node).Pairwise fun f f' => f.1 ≠ f'.1 := by
  induction h generalizing path with
  | file | unreadable => simp [contentFiles]
  | @directory entries names below ih =>
    rw [contentFiles, contentFilesIn_eq, List.pairwise_flatMap]
    constructor
    · rintro ⟨name, node⟩ mem
      cases node with
      | directory entries =>
        rw [contentFilesAt_directory]
        exact ih _ mem (path ++ [name])
      | file | unreadable =>
        rw [contentFilesAt]
        split <;> simp
    · refine names.imp fun {entry entry'} differ f mem f' mem' same => ?_
      obtain ⟨rest, hf, -⟩ := (mem_contentFilesAt_iff entry path f).1 mem
      obtain ⟨rest', hf', -⟩ := (mem_contentFilesAt_iff entry' path f').1 mem'
      rw [hf, hf', List.append_cancel_left_eq, List.cons.injEq] at same
      exact differ same.1

mutual

/-- From the same tree the same files are collected, whatever the listing. -/
theorem Relisted.contentFilesAt_perm {node node' : FileNode} : node.Relisted node' →
    ∀ (path : List String) (name : String),
      (contentFilesAt path (name, node)).Perm (contentFilesAt path (name, node'))
  | .file bytes, path, name => .refl _
  | .unreadable, path, name => .refl _
  | .directory below order, path, name => by
    simp only [contentFilesAt]
    refine (below.contentFilesIn_perm (path ++ [name])).trans ?_
    simp only [contentFilesIn_eq]
    exact order.flatMap_right _

theorem RelistedIn.contentFilesIn_perm {entries entries' : List (String × FileNode)} :
    RelistedIn entries entries' → ∀ path : List String,
      (contentFilesIn path entries).Perm (contentFilesIn path entries')
  | .nil, path => .refl _
  | .cons first later, path => by
    simp only [contentFilesIn]
    exact (first.contentFilesAt_perm path _).append (later.contentFilesIn_perm path)

end

/-- The order of directories does not decide which files are collected. -/
theorem Relisted.contentFiles_perm {node node' : FileNode} (h : node.Relisted node')
    (path : List String) : (contentFiles path node).Perm (contentFiles path node') := by
  cases h with
  | file | unreadable => exact .refl _
  | directory below order =>
    simp only [contentFiles]
    refine (below.contentFilesIn_perm path).trans ?_
    simp only [contentFilesIn_eq]
    exact order.flatMap_right _

/-! ### Their order -/

/-- Paths are compared component by component. -/
theorem pathLE_iff {f f' : List String × FileNode} : pathLE f f' = true ↔ ¬f'.1 < f.1 := by
  have before : f'.1.lex f.1 (fun a b => a < b) = true ↔ f'.1 < f.1 := by
    rw [List.lex_eq_true_iff_lex]
    simp only [decide_eq_true_eq]
    exact Iff.rfl
  rw [pathLE, Bool.not_eq_true', ← Bool.not_eq_true, before]

/-- Sorting loses no file. -/
theorem sortedFiles_perm (node : FileNode) : node.sortedFiles.Perm (contentFiles [] node) :=
  List.mergeSort_perm _ _

/-- Different paths are strictly ascending after they have been sorted. -/
theorem sortedFiles_ascending {node : FileNode}
    (h : (contentFiles [] node).Pairwise fun f f' => f.1 ≠ f'.1) :
    node.sortedFiles.Pairwise fun f f' => f.1 < f'.1 := by
  have sorted : node.sortedFiles.Pairwise fun f f' => pathLE f f' = true := by
    refine List.pairwise_mergeSort ?_ ?_ _
    · intro f f' f'' first second
      rw [pathLE_iff] at first second ⊢
      exact List.le_trans (α := String) first second
    · intro f f'
      rw [Bool.or_eq_true, pathLE_iff, pathLE_iff]
      exact List.le_total (α := String) f.1 f'.1
  have differ : node.sortedFiles.Pairwise fun f f' => f.1 ≠ f'.1 :=
    h.perm (sortedFiles_perm node).symm fun differ => differ.symm
  refine (sorted.and differ).imp fun {f f'} both => ?_
  exact Classical.byContradiction fun other =>
    both.2 (List.le_antisymm (pathLE_iff.1 both.1) other)

/-- Whatever the listing, the files come in the same order. -/
theorem Relisted.sortedFiles_eq {node node' : FileNode} (h : node.Relisted node')
    (distinct : node.Distinct) : node.sortedFiles = node'.sortedFiles := by
  have collected := h.contentFiles_perm []
  have differ := distinct.paths_differ []
  have same : node.sortedFiles.Perm node'.sortedFiles :=
    (sortedFiles_perm node).trans (collected.trans (sortedFiles_perm node').symm)
  refine same.eq_of_pairwise ?_ (sortedFiles_ascending differ)
    (sortedFiles_ascending (differ.perm collected fun differ => differ.symm))
  intro f f' _ _ before after
  exact absurd after (List.lt_asymm before)

end FileNode

/-! ### Registries of directories -/

namespace Registry

/-- What is written to a file is read from it. -/
theorem text_file (text : String) : (FileNode.file text.toUTF8).text = .ok text := by
  have valid : text.toUTF8.IsValidUTF8 := text.isValidUTF8
  have read : String.fromUTF8? text.toUTF8 = some text := dif_pos valid
  rw [FileNode.text, read]

/-- The text of a file with its path as the source, if it can be read and is JSON. -/
def usableText (f : List String × FileNode) : Option (String × String) :=
  match f.2.text with
  | .ok text => if (Json.parse text).isSome then some ("/".intercalate f.1, text) else none
  | .error _ => none

/-- A text that has a record is JSON. -/
theorem json_of_mem_recordsOf {text : String} {record : Json} (mem : record ∈ recordsOf text) :
    (Json.parse text).isSome = true := by
  rw [recordsOf] at mem
  cases parsed : Json.parse text with
  | none =>
    rw [parsed] at mem
    cases mem
  | some j => rfl

/-- A file is usable if its text is JSON. -/
theorem usableText_file (path : List String) (text : String)
    (json : (Json.parse text).isSome = true) :
    usableText (path, .file text.toUTF8) = some ("/".intercalate path, text) := by
  rw [usableText, text_file]
  exact if_pos json

/-- The texts of files without those that cannot be read and those that are not JSON. -/
def usableTexts (files : List (List String × FileNode)) : List (String × String) :=
  files.filterMap usableText

theorem text_eq_error {node : FileNode} {failure : Failure} (h : node.text = .error failure) :
    failure = .io := by
  unfold FileNode.text at h
  split at h
  · split at h
    · cases h
    · exact (Except.error.inj h).symm
  · exact (Except.error.inj h).symm

section

variable {f : List String × FileNode} {files : List (List String × FileNode)} {r r' : Registry}

/-- A file that is not broken off passes on its registry. -/
theorem loadFiles_of_loaded (cured : ∀ cause,
      (r.loadFile ("/".intercalate f.1) f.2).1 ≠ .error (.fault cause)) :
    r.loadFiles (f :: files) = (r.loadFile ("/".intercalate f.1) f.2).2.loadFiles files := by
  obtain ⟨path, node⟩ := f
  rw [loadFiles]
  split
  · rename_i cause _ broken
    rw [broken] at cured
    exact absurd rfl (cured cause)
  · rename_i loads
    rw [loads]

/-- A fault in a file ends the loading. -/
theorem loadFiles_of_fault {cause : Fault}
    (h : (r.loadFile ("/".intercalate f.1) f.2).1 = .error (.fault cause)) :
    r.loadFiles (f :: files) = .error (.fault cause) := by
  obtain ⟨path, node⟩ := f
  rw [loadFiles]
  split
  · rename_i broken
    rw [broken] at h
    obtain rfl := Failure.fault.inj (Except.error.inj h)
    rfl
  · rename_i whole loads
    rw [loads] at h
    exact (whole cause h).elim

/-- A file that cannot be used adds nothing and is no fault. -/
theorem loadFile_of_unusable (r : Registry) (h : usableText f = none) :
    ∃ failure, r.loadFile ("/".intercalate f.1) f.2 = (.error failure, r) ∧
      ∀ cause, failure ≠ .fault cause := by
  unfold usableText at h
  cases read : f.2.text with
  | error failure =>
    refine ⟨.io, ?_, nofun⟩
    rw [loadFile, read, text_eq_error read]
  | ok text =>
    rw [read] at h
    refine ⟨ReadError.invalidJson.inContent ("/".intercalate f.1), ?_, nofun⟩
    rw [loadFile, read]
    exact load_of_parse_eq_none r _ (by simpa using h)

/-- A file that cannot be used might as well not be there. -/
theorem loadFiles_of_unusable (r : Registry) (h : usableText f = none) :
    r.loadFiles (f :: files) = r.loadFiles files := by
  obtain ⟨failure, refused, cured⟩ := loadFile_of_unusable r h
  have passed : ∀ cause,
      (r.loadFile ("/".intercalate f.1) f.2).1 ≠ .error (.fault cause) := by
    rw [refused]
    exact fun cause same => cured cause (Except.error.inj same)
  rw [loadFiles_of_loaded passed, refused]

/-- A file that can be used is loaded like its text, which is JSON. -/
theorem loadFile_of_usable (r : Registry) {t : String × String} (h : usableText f = some t) :
    r.loadFile ("/".intercalate f.1) f.2 = r.load t.1 t.2 := by
  unfold usableText at h
  split at h
  · rename_i text' read
    split at h
    · obtain rfl := Option.some.inj h
      rw [loadFile, read]
    · cases h
  · cases h

theorem usableTexts_of_unusable (h : usableText f = none) :
    usableTexts (f :: files) = usableTexts files := List.filterMap_cons_none h

theorem usableTexts_of_usable {t : String × String} (h : usableText f = some t) :
    usableTexts (f :: files) = t :: usableTexts files := List.filterMap_cons_some h

theorem recordsIn_cons (t : String × String) (texts : List (String × String)) :
    recordsIn (t :: texts) = recordsOf t.2 ++ recordsIn texts := List.flatMap_cons

/-- A usable text without a record that breaks passes on its registry. -/
theorem loadFiles_of_whole (r : Registry) {t : String × String} (usable : usableText f = some t)
    (whole : ∀ record ∈ recordsOf t.2, ¬Breaks record) :
    r.loadFiles (f :: files) = (r.afterLoad t.1 t.2).loadFiles files := by
  have loads := loadFile_of_usable r usable
  have passed : ∀ cause,
      (r.loadFile ("/".intercalate f.1) f.2).1 ≠ .error (.fault cause) := by
    rw [loads]
    intro cause broken
    obtain ⟨record, mem, breaks⟩ := load_eq_fault_iff.1 ⟨cause, broken⟩
    exact whole record mem breaks
  rw [loadFiles_of_loaded passed, loads]
  rfl

/-- Files without a record that breaks come to what their usable texts come to. -/
theorem loadFiles_eq (r : Registry)
    (whole : ∀ record ∈ recordsIn (usableTexts files), ¬Breaks record) :
    r.loadFiles files =
      .ok ((usableTexts files).foldl (fun r t => r.afterLoad t.1 t.2) r) := by
  induction files generalizing r with
  | nil => rfl
  | cons f rest ih =>
    cases usable : usableText f with
    | none =>
      rw [usableTexts_of_unusable usable] at whole ⊢
      rw [loadFiles_of_unusable r usable]
      exact ih r whole
    | some t =>
      rw [usableTexts_of_usable usable] at whole ⊢
      rw [recordsIn_cons, List.forall_mem_append] at whole
      rw [loadFiles_of_whole r usable whole.1]
      exact ih _ whole.2

/-- A record that breaks in the text of some file breaks off the whole. -/
theorem loadFiles_of_breaks (r : Registry)
    (broken : ∃ record ∈ recordsIn (usableTexts files), Breaks record) :
    ∃ cause, r.loadFiles files = .error (.fault cause) := by
  induction files generalizing r with
  | nil =>
    obtain ⟨_, mem, -⟩ := broken
    cases mem
  | cons f rest ih =>
    cases usable : usableText f with
    | none =>
      rw [usableTexts_of_unusable usable] at broken
      rw [loadFiles_of_unusable r usable]
      exact ih r broken
    | some t =>
      rw [usableTexts_of_usable usable, recordsIn_cons] at broken
      by_cases first : ∃ record ∈ recordsOf t.2, Breaks record
      · obtain ⟨cause, breaks⟩ := load_eq_fault_iff.2 first
        exact ⟨cause, loadFiles_of_fault (by rw [loadFile_of_usable r usable, breaks])⟩
      · rw [loadFiles_of_whole r usable (by simpa using first)]
        refine ih _ ?_
        obtain ⟨record, mem, breaks⟩ := broken
        rcases List.mem_append.1 mem with mem | mem
        · exact absurd ⟨record, mem, breaks⟩ first
        · exact ⟨record, mem, breaks⟩

end

/-- How a directory is listed does not matter. Its files of content are those that some path leads
to, each once and in strictly ascending order of their paths. Unless a record in one of them breaks
off the load, there is a registry, and it is what the files that can be used come to in that order;
the others might as well not be there. If a record does break off, there is no registry. -/
theorem directory_listing_immaterial {entries : List (String × FileNode)} {listed : FileNode}
    (relisted : (FileNode.directory entries).Relisted listed)
    (distinct : (FileNode.directory entries).Distinct) :
    let tree := FileNode.directory entries
    let files := tree.sortedFiles
    listed.sortedFiles = files ∧ ofDirectory (some listed) = ofDirectory (some tree) ∧
      (∀ path node, (path, node) ∈ files ↔
        tree.Leads path node ∧ FileNode.IsContentFile path node) ∧
      files.Pairwise (fun f f' => f.1 < f'.1) ∧
      ((∀ record ∈ recordsIn (usableTexts files), ¬Breaks record) →
        ofDirectory (some tree) = .ok (loaded (usableTexts files))) ∧
      ((∃ record ∈ recordsIn (usableTexts files), Breaks record) →
        ∃ cause, ofDirectory (some tree) = .error (.fault cause)) := by
  intro tree files
  have same : files = listed.sortedFiles := relisted.sortedFiles_eq distinct
  refine ⟨same.symm, ?_, ?_, FileNode.sortedFiles_ascending (distinct.paths_differ []),
    loadFiles_eq empty, loadFiles_of_breaks empty⟩
  · cases relisted with
    | directory below order => exact congrArg empty.loadFiles same.symm
  · intro path node
    exact (FileNode.sortedFiles_perm tree).mem_iff.trans FileNode.mem_contentFiles_iff

/-- A directory with one below it is listed in two ways; one file is unreadable, and one is none of
content. -/
theorem news_below_greeting :
    let talk := "\x7b\"type\":\"talk_topic\",\"id\":\"TALK\"\x7d"
    let news := "\x7b\"type\":\"talk_topic\",\"id\":\"NEWS\"\x7d"
    let a : String × FileNode := ("a.json", .file talk.toUTF8)
    let notes : String × FileNode := ("notes.txt", .file talk.toUTF8)
    let x : String × FileNode := ("x.json", .unreadable)
    let y : String × FileNode := ("y.json", .file news.toUTF8)
    let tree := FileNode.directory [("b", .directory [y, x]), notes, a]
    let listed := FileNode.directory [a, ("b", .directory [x, y]), notes]
    tree.Relisted listed ∧ tree.Distinct ∧
      listed.sortedFiles = [(["a.json"], a.2), (["b", "x.json"], x.2), (["b", "y.json"], y.2)] ∧
      ofDirectory (some listed) = ofDirectory (some tree) ∧
      ofDirectory (some tree) = .ok (loaded [("a.json", talk), ("b/y.json", news)]) := by
  intro talk news a notes x y tree listed
  have below : FileNode.Relisted (.directory [y, x]) (.directory [x, y]) :=
    .directory (.cons (.file _) (.cons .unreadable .nil)) (.swap x y [])
  have relisted : tree.Relisted listed := by
    refine .directory (.cons below (.cons (.file _) (.cons (.file _) .nil))) ?_
    exact (List.Perm.swap a notes []).cons _ |>.trans (.swap a _ [notes])
  have distinct : tree.Distinct := by
    have inner : FileNode.Distinct (.directory [y, x]) :=
      .directory (by simp [x, y])
        (by simp [x, y, FileNode.Distinct.file, FileNode.Distinct.unreadable])
    exact .directory (by simp [notes, a]) (by simp [notes, a, inner, FileNode.Distinct.file])
  have content : FileNode.isContent "a.json" = true ∧ FileNode.isContent "x.json" = true ∧
      FileNode.isContent "y.json" = true ∧ FileNode.isContent "notes.txt" = false := by
    decide +kernel
  have sorted : listed.sortedFiles =
      [(["a.json"], a.2), (["b", "x.json"], x.2), (["b", "y.json"], y.2)] := by
    have collected : FileNode.contentFiles [] listed =
        [(["a.json"], a.2), (["b", "x.json"], x.2), (["b", "y.json"], y.2)] := by
      simp [listed, a, notes, x, y, content, FileNode.contentFiles, FileNode.contentFilesIn,
        FileNode.contentFilesAt]
    rw [FileNode.sortedFiles, collected]
    exact List.mergeSort_of_pairwise (by decide +kernel)
  have texts : usableTexts listed.sortedFiles = [("a.json", talk), ("b/y.json", news)] := by
    have first := usableText_file ["a.json"] talk (by decide +kernel)
    have second := usableText_file ["b", "y.json"] news (by decide +kernel)
    rw [sorted, usableTexts_of_usable first, usableTexts_of_unusable rfl,
      usableTexts_of_usable second]
    rfl
  obtain ⟨same, alike, -, -, loads, -⟩ := directory_listing_immaterial relisted distinct
  rw [← same, texts] at loads
  exact ⟨relisted, distinct, sorted, alike, loads (by decide +kernel)⟩

/-- One file alone gives a topic. With another one beside it, in which a duration overflows, there
is no registry. -/
theorem overflow_leaves_no_registry :
    let talk := "\x7b\"type\":\"talk_topic\",\"id\":\"TALK\"\x7d"
    let wait := "\x7b\"type\":\"talk_topic\",\"id\":\"WAIT\",\"speaker_effect\":\x7b\"effect\":[],"
      ++ "\"condition\":\x7b\"type\":\"compare_duration\",\"op\":\"<\",\"rhs\":1,"
      ++ "\"lhs\":\"18446744073709551615s1000ms\"\x7d\x7d\x7d"
    let a : String × FileNode := ("a.json", .file talk.toUTF8)
    let b : String × FileNode := ("b.json", .file wait.toUTF8)
    (∃ r, ofDirectory (some (.directory [a])) = .ok r ∧ r.contains "TALK" = true) ∧
      ∃ cause, ofDirectory (some (.directory [a, b])) = .error (.fault cause) := by
  intro talk wait a b
  have content : FileNode.isContent "a.json" = true ∧ FileNode.isContent "b.json" = true := by
    decide +kernel
  have sorted : (FileNode.directory [a]).sortedFiles = [(["a.json"], a.2)] ∧
      (FileNode.directory [a, b]).sortedFiles = [(["a.json"], a.2), (["b.json"], b.2)] := by
    simp only [FileNode.sortedFiles, FileNode.contentFiles, FileNode.contentFilesIn,
      FileNode.contentFilesAt, a, b, content, if_true, List.nil_append, List.append_nil,
      List.singleton_append]
    constructor <;> exact List.mergeSort_of_pairwise (by decide +kernel)
  have first := usableText_file ["a.json"] talk (by decide +kernel)
  have broken : ∃ record ∈ recordsOf wait, Breaks record := by decide +kernel
  obtain ⟨record, mem, breaks⟩ := broken
  have second := usableText_file ["b.json"] wait (json_of_mem_recordsOf mem)
  constructor
  · have texts : usableTexts (FileNode.directory [a]).sortedFiles = [("a.json", talk)] := by
      rw [sorted.1, usableTexts_of_usable first]
      rfl
    refine ⟨_, loadFiles_eq empty ?_, ?_⟩
    · rw [texts]
      decide +kernel
    · rw [texts]
      decide +kernel
  · have texts : usableTexts (FileNode.directory [a, b]).sortedFiles =
        [("a.json", talk), ("b.json", wait)] := by
      rw [sorted.2, usableTexts_of_usable first, usableTexts_of_usable second]
      rfl
    refine loadFiles_of_breaks empty ⟨record, ?_, breaks⟩
    rw [texts, recordsIn_cons, recordsIn_cons]
    exact List.mem_append_right _ (List.mem_append_left _ mem)

end Registry

end Parley
