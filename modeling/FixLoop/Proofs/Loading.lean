import FixLoop.Manifest.Basic
import FixLoop.Proofs.Encoding
import FixLoop.Proofs.Globbing
import FixLoop.Proofs.Workspace.Saving

/-!
What a manifest loads, and what a save makes of it. The text of a document is what its file says but
for the line breaks, which are unified when the file is read and not told apart when it is written.
So writing a document back gives its file again only if the file has no carriage return, and a fix
of one piece of a file leaves the rest of it alone only if the rest has none.
-/

namespace FixLoop

/-- How a document was read: the bytes of its file say a text, of which the line breaks are
unified. -/
structure Document.IsRead (tree : FileTree) (root : Path) (document : Document) (place : Path)
    (bytes : Bytes) (text : Text) : Prop where
  leads : document.place? root = some place
  holds : tree.content? place = some bytes
  decodes : Utf8.decode bytes = .ok text
  unified : document.text = Text.unifyNewlines text

theorem Document.IsRead.encode_eq_iff {tree : FileTree} {root place : Path} {document : Document}
    {bytes : Bytes} {text : Text} (read : document.IsRead tree root place bytes text) :
    Utf8.encode document.text = bytes ↔ '\r' ∉ text := by
  have around := Text.encode_unifyNewlines_around text [] []
  simpa [read.unified, Utf8.encode_of_decode read.decodes, Text.unifyNewlines] using around

namespace Manifest

variable {tree : FileTree} {root path : Path}

/-! ### What is loaded -/

/-- Whether a unit is as a manifest gives it. -/
structure IsInitial (tree : FileTree) (root : Path) (unit : SourceUnit) : Prop where
  version : unit.version = 0
  read : ∀ document ∈ unit.documents, ∃ place bytes text,
    document.IsRead tree root place bytes text

/-- Whether a workspace is as a manifest gives it: nothing happened to its units since they were
added. -/
structure IsFresh (tree : FileTree) (root : Path) (workspace : Workspace) : Prop where
  below : workspace.root = some root
  once : workspace.ids.Nodup
  settled : ∀ tracked ∈ workspace.units, tracked.saved = tracked.current
  initial : ∀ tracked ∈ workspace.units, IsInitial tree root tracked.current

theorem isRead_of_readDocument {document : Document} (proper : path.IsProper)
    (read : readDocument tree root path = .ok document) :
    ∃ place bytes text, document.IsRead tree root place bytes text := by
  unfold readDocument FileTree.readText at read
  cases opened : tree.read (root ++ path) with
  | error fault => simp [opened] at read
  | ok bytes =>
    cases decodes : Utf8.decode bytes with
    | error fault => simp [opened, decodes] at read
    | ok text =>
      simp only [opened, decodes, Except.ok.injEq] at read
      subst read
      obtain ⟨place, leads, holds⟩ := FileTree.content?_of_read opened
      refine ⟨place, bytes, text, ?_, holds, decodes, rfl⟩
      rw [Document.place?, Path.ofText_text proper]
      exact leads

theorem isProper_of_findFiles (proper : tree.IsProper) {patterns : List String}
    {files : List Path} (found : findFiles tree root patterns = .ok files) :
    ∀ file ∈ files, file.IsProper := by
  intro file member
  obtain ⟨all, globbed, found⟩ := exists_of_bind_eq_ok found
  cases found
  obtain ⟨some, among, member⟩ := List.mem_flatten.mp (List.mem_eraseDups.mp member)
  obtain ⟨pattern, -, globbed⟩ := exists_of_mapM_eq_ok globbed among
  exact FileTree.glob_isProper proper (eq_ok_of_mapError globbed) member

theorem isInitial_of_readUnit (proper : tree.IsProper) {entry : Value} {unit : SourceUnit}
    (read : readUnit tree root entry = .ok unit) : IsInitial tree root unit := by
  unfold readUnit at read
  simp only [] at read
  split at read
  · cases read
  obtain ⟨patterns, -, read⟩ := exists_of_bind_eq_ok read
  split at read
  · cases read
  obtain ⟨files, found, read⟩ := exists_of_bind_eq_ok read
  obtain ⟨documents, opened, read⟩ := exists_of_bind_eq_ok read
  obtain ⟨dependsOn, -, read⟩ := exists_of_bind_eq_ok read
  cases read
  refine ⟨rfl, fun document member => ?_⟩
  obtain ⟨file, among, opened⟩ := exists_of_mapM_eq_ok opened member
  exact isRead_of_readDocument (isProper_of_findFiles proper found file among) opened

theorem isFresh_add {workspace next : Workspace} {unit : SourceUnit}
    (fresh : IsFresh tree root workspace) (initial : IsInitial tree root unit)
    (added : workspace.add unit = .ok next) : IsFresh tree root next := by
  constructor
  case below =>
    obtain ⟨-, rfl⟩ := Workspace.add_eq_ok.mp added
    exact fresh.below
  case once => exact Workspace.nodup_ids_add added fresh.once
  case settled => exact Workspace.forall_units_add added fresh.settled rfl
  case initial => exact Workspace.forall_units_add added fresh.initial initial

theorem isFresh_readUnits (proper : tree.IsProper) {entries : List Value} {workspace : Workspace}
    (read : readUnits tree root entries = .ok workspace) : IsFresh tree root workspace := by
  have start : IsFresh tree root { root := some root } := ⟨rfl, List.nodup_nil, nofun, nofun⟩
  unfold readUnits at read
  generalize ({ root := some root } : Workspace) = before at start read
  induction entries generalizing before with
  | nil =>
    cases read
    exact start
  | cons entry rest ih =>
    obtain ⟨middle, read, later⟩ := exists_of_bind_eq_ok read
    obtain ⟨unit, opened, read⟩ := exists_of_bind_eq_ok read
    have initial := isInitial_of_readUnit proper opened
    exact ih middle (isFresh_add start initial (eq_ok_of_mapError read)) later

variable {σ : Type} {formats : FileFormats} {outcomes : Compilers.Outcomes} {manifest : Manifest σ}

theorem isFresh_of_load (proper : tree.IsProper)
    (loaded : load formats outcomes tree path = .ok manifest) :
    ∃ root, IsFresh tree root manifest.workspace := by
  obtain ⟨value, -, loaded⟩ := exists_of_bind_eq_ok loaded
  split at loaded
  · simp only [] at loaded
    split at loaded
    · obtain ⟨workspace, read, loaded⟩ := exists_of_bind_eq_ok loaded
      -- The units are read before the plugins and stay as they are.
      obtain ⟨compiler, -, loaded⟩ := exists_of_bind_eq_ok loaded
      obtain ⟨formatter, -, loaded⟩ := exists_of_bind_eq_ok loaded
      obtain ⟨analyzers, -, loaded⟩ := exists_of_bind_eq_ok loaded
      obtain ⟨registry, -, loaded⟩ := exists_of_bind_eq_ok loaded
      cases loaded
      exact ⟨_, isFresh_readUnits proper read⟩
    · cases loaded
  · cases loaded

end Manifest

/-! ### What is written -/

/-- A file holds what is said by all documents of which it is the place. -/
theorem Workspace.content?_of_agree {root place : Path} {files after : FileTree}
    {entries : List (String × Document)} {content : Bytes}
    (written : entries.foldlM (FileTree.writeDocument root) files = .ok after)
    (some : ∃ entry ∈ entries, entry.2.place? root = some place)
    (agree : ∀ entry ∈ entries, entry.2.place? root = Option.some place →
      Utf8.encode entry.2.text = content) : after.content? place = Option.some content := by
  induction entries generalizing files with
  | nil => simp at some
  | cons entry later ih =>
    -- The last document that leads to the place counts, and they all agree.
    by_cases again : ∃ other ∈ later, other.2.place? root = Option.some place
    · obtain ⟨middle, -, written⟩ := exists_of_bind_eq_ok written
      exact ih written again fun other member => agree other (List.mem_cons_of_mem _ member)
    · obtain ⟨found, member, leads⟩ := some
      obtain rfl : found = entry := (List.mem_cons.mp member).resolve_right fun among =>
        again ⟨found, among, leads⟩
      rw [content?_of_last written (List.nil_append _).symm leads fun other among own =>
        again ⟨other, among, own⟩, agree found List.mem_cons_self leads]

/-- A save writes the only document that counts as changed, and nothing else. -/
theorem Workspace.save_only {root place : Path} {workspace : Workspace} {id : String}
    {document : Document} (only : ∀ entry, entry ∈ workspace.changed ↔ entry = (id, document))
    (below : workspace.root = some root) (leads : document.place? root = some place)
    (files : FileTree) :
    ∃ saved, workspace.save files = .ok saved ∧ (saved.fault = none →
      saved.files.content? place = some (Utf8.encode document.text) ∧
      ∀ other, other ≠ place → saved.files.content? other = files.content? other) := by
  have saves : workspace.save files = .ok (workspace.writeAll root files workspace.changed) := by
    unfold save
    rw [below]
  refine ⟨_, saves, fun complete => ?_⟩
  obtain ⟨done, rest, writes⟩ := writes_of_save saves below
  obtain rfl : workspace.changed = done := by simpa [writes.rest.mp complete] using writes.split
  refine ⟨content?_of_agree writes.files ⟨_, (only _).mpr rfl, leads⟩ ?_, fun other apart => ?_⟩
  · intro entry member _
    rw [(only entry).mp member]
  · refine content?_of_apart writes.files fun entry member own => apart ?_
    rw [(only entry).mp member, leads] at own
    exact (Option.some.inj own).symm

/-- A text in three pieces, with no line break torn apart. -/
structure Text.Cut (text before piece after : Text) : Prop where
  whole : text = before ++ piece ++ after
  start : before.getLast? = some '\r' → (piece ++ after).head? ≠ some '\n'
  stop : (before ++ piece).getLast? = some '\r' → after.head? ≠ some '\n'

theorem Text.Cut.unifyNewlines_eq {text before piece after : Text}
    (cut : text.Cut before piece after) :
    unifyNewlines text = unifyNewlines before ++ unifyNewlines piece ++ unifyNewlines after := by
  rw [cut.whole, unifyNewlines_append cut.stop, unifyNewlines_append fun last => ?_]
  intro next
  refine cut.start last ?_
  rw [List.head?_append, next, Option.some_or]

/-- The edit that replaces a piece of a text behind another one. -/
def TextEdit.replacing (path : String) (before piece new : Text) : TextEdit where
  path
  start := before.length
  stop := before.length + piece.length
  text := new

theorem TextEdit.apply_replacing (path : String) (before piece after new : Text) :
    TextEdit.apply (before ++ piece ++ after) [replacing path before piece new] =
      .ok (before ++ new ++ after) := by
  have start : (replacing path before piece new).start.toNat = before.length := Int.toNat_natCast _
  have stop : (replacing path before piece new).stop.toNat = (before ++ piece).length := by
    rw [List.length_append]
    exact Int.toNat_natCast _
  rw [apply_singleton, start, stop, List.drop_left, List.append_assoc before piece, List.take_left]
  · rfl
  · simp only [inRange, Bool.and_eq_true, decide_eq_true_eq]
    simp only [replacing, List.length_append]
    omega

/-- The next version of a unit, in which the document with some path has another text. -/
def SourceUnit.replacing (unit : SourceUnit) (path : String) (text : Text) : SourceUnit :=
  unit.renewed (fun document => if document.path = path then text else document.text)
    (unit.version + 1)

theorem SourceUnit.withEdits_replacing {unit : SourceUnit} {document : Document}
    (distinct : unit.paths.Nodup) (member : document ∈ unit.documents)
    {before piece after : Text} (text : document.text = before ++ piece ++ after) (new : Text) :
    unit.withEdits [TextEdit.replacing document.path before piece new] =
      .ok (unit.replacing document.path (before ++ new ++ after)) := by
  refine withEdits_eq distinct (fun edit given => ?_) fun other among => ?_
  · cases List.mem_singleton.mp given
    exact List.mem_map_of_mem member
  · by_cases own : other.path = document.path
    · obtain rfl : other = document := List.inj_on_of_nodup_map distinct among member own
      have edits : editsOf [TextEdit.replacing other.path before piece new] other.path =
          [TextEdit.replacing other.path before piece new] := by
        simp [editsOf, TextEdit.replacing]
      rw [edits, text, TextEdit.apply_replacing, if_pos rfl]
    · have none : editsOf [TextEdit.replacing document.path before piece new] other.path = [] := by
        simp [editsOf, TextEdit.replacing, Ne.symm own]
      rw [none, TextEdit.apply_nil, if_neg own]

theorem Workspace.Tracked.mem_changed_replaced {tracked : Tracked} {document changed : Document}
    {text : Text} (distinct : tracked.current.paths.Nodup)
    (settled : tracked.saved = tracked.current) (member : document ∈ tracked.current.documents)
    (other : text ≠ document.text) :
    changed ∈ Tracked.changed
        { tracked with current := tracked.current.replacing document.path text } ↔
      changed = { document with text } := by
  rw [Tracked.changed_eq, List.mem_filter]
  dsimp only
  rw [settled]
  constructor
  · rintro ⟨among, differs⟩
    obtain ⟨original, present, rfl⟩ := List.mem_map.mp among
    rw [SourceUnit.document?_of_mem distinct present] at differs
    by_cases own : original.path = document.path
    · obtain rfl : original = document := List.inj_on_of_nodup_map distinct present member own
      simp
    · simp [own] at differs
  · rintro rfl
    refine ⟨List.mem_map.mpr ⟨document, member, ?_⟩, ?_⟩
    · simp
    · rw [SourceUnit.document?_of_mem distinct member]
      simpa using other.symm

namespace Manifest

variable {tree : FileTree} {root path : Path}

/-- Once the text of one document is replaced, that document is what a save writes. -/
theorem IsFresh.mem_changed_replaced {workspace : Workspace} (fresh : IsFresh tree root workspace)
    (distinct : ∀ tracked ∈ workspace.units, tracked.current.paths.Nodup) {tracked : Tracked}
    (unit : tracked ∈ workspace.units) {document : Document}
    (member : document ∈ tracked.current.documents) {text : Text} (other : text ≠ document.text)
    (entry : String × Document) :
    entry ∈ (workspace.adjust tracked.current.id fun known =>
        { known with current := tracked.current.replacing document.path text }).changed ↔
      entry = (tracked.current.id, { document with text }) := by
  rw [Workspace.mem_changed]
  constructor
  · rintro ⟨next, among, changed, new, rfl⟩
    obtain ⟨known, present, rfl⟩ := List.mem_map.mp among
    by_cases own : known.current.id = tracked.current.id
    · obtain rfl : known = tracked := List.inj_on_of_nodup_map fresh.once present unit own
      rw [if_pos rfl] at new ⊢
      rw [(Workspace.Tracked.mem_changed_replaced (distinct known unit) (fresh.settled known unit)
        member other).mp new]
      rfl
    · rw [if_neg own] at new
      have same : known = ⟨known.current, known.current⟩ :=
        congrArg (Tracked.mk known.current) (fresh.settled known present)
      rw [same, Workspace.Tracked.changed_settled (distinct known present)] at new
      cases new
  · rintro rfl
    refine ⟨_, List.mem_map.mpr ⟨tracked, unit, if_pos rfl⟩, { document with text }, ?_, rfl⟩
    exact (Workspace.Tracked.mem_changed_replaced (distinct tracked unit)
      (fresh.settled tracked unit) member other).mpr rfl

section

variable {σ : Type} {formats : FileFormats} {outcomes : Compilers.Outcomes} {manifest : Manifest σ}

/-- Writing a document back that was loaded gives its file again exactly if the file has no carriage
return. Once a piece of a file is replaced and saved, what is around the piece is as it was exactly
if it has none; the files of no other document change. -/
theorem load_save_keeps_iff (proper : tree.IsProper)
    (loaded : load formats outcomes tree path = .ok manifest)
    (distinct : (manifest.workspace.documents.map (·.2.path)).Nodup) {id : String}
    {document : Document} (member : (id, document) ∈ manifest.workspace.documents) :
    ∃ root place bytes text, manifest.workspace.root = some root ∧
      document.IsRead tree root place bytes text ∧
      (Utf8.encode document.text = bytes ↔ '\r' ∉ text) ∧
      ∀ before piece after new, text.Cut before piece after → new ≠ Text.unifyNewlines piece →
        ∃ next, manifest.workspace.tryEdit id 0 [TextEdit.replacing document.path
            (Text.unifyNewlines before) (Text.unifyNewlines piece) new] = .ok (true, next) ∧
          ∀ files, ∃ saved, next.save files = .ok saved ∧ (saved.fault = none →
            saved.files.content? place = some (Utf8.encode
              (Text.unifyNewlines before ++ new ++ Text.unifyNewlines after)) ∧
            (saved.files.content? place = some (Utf8.encode (before ++ new ++ after)) ↔
              '\r' ∉ before ∧ '\r' ∉ after) ∧
            ∀ other, other ≠ place → saved.files.content? other = files.content? other) := by
  obtain ⟨root, fresh⟩ := isFresh_of_load proper loaded
  have each := (List.nodup_flatMap.mp (Workspace.paths_documents manifest.workspace ▸ distinct)).1
  obtain ⟨tracked, unit, entry⟩ := List.mem_flatMap.mp member
  obtain ⟨_, among, same⟩ := List.mem_map.mp entry
  cases same
  obtain ⟨place, bytes, text, read⟩ := (fresh.initial tracked unit).read document among
  refine ⟨root, place, bytes, text, fresh.below, read, read.encode_eq_iff, ?_⟩
  intro before piece after new cut other
  -- Offsets are those of the text that was loaded, in which each piece is unified by itself.
  have pieces := read.unified.trans cut.unifyNewlines_eq
  have fits := SourceUnit.withEdits_replacing (each tracked unit) among pieces new
  refine ⟨_, Workspace.tryEdit_eq_landed.mpr ⟨_, _, Workspace.snapshot?_of_mem fresh.once unit,
    (fresh.initial tracked unit).version, fits, rfl⟩, fun files => ?_⟩
  have differs : Text.unifyNewlines before ++ new ++ Text.unifyNewlines after ≠ document.text := by
    rw [pieces]
    simpa using other
  obtain ⟨saved, saves, holds⟩ := Workspace.save_only
    (fresh.mem_changed_replaced each unit among differs) fresh.below read.leads files
  refine ⟨saved, saves, fun complete => ?_⟩
  obtain ⟨here, others⟩ := holds complete
  refine ⟨here, ?_, others⟩
  rw [here, Option.some_inj]
  exact Text.encode_unifyNewlines_around before new after

end

end Manifest

namespace Couplet

/-! Two lines in a file, with a space at the end of the first. -/

def formats : FileFormats where
  toml? _ := none
  yaml? _ := some (.table [("units", .list [.table [("name", .text "u"), ("documents", .text "a")]])])

/-- The lines with a line break at the end of each. -/
def text (lineBreak : Text) : Text := ['x', ' '] ++ lineBreak ++ ['y'] ++ lineBreak

/-- A manifest, and the file of the lines beside it. -/
def tree (lineBreak : Text) : FileTree where
  entries := [(["m"], .file []), (["a"], .file (Utf8.encode (text lineBreak)))]

theorem isProper_tree (lineBreak : Text) : (tree lineBreak).IsProper := by
  intro entry member
  have names : entry.1 = ["m"] ∨ entry.1 = ["a"] := by
    simp only [tree, List.mem_cons, List.not_mem_nil, or_false] at member
    exact member.imp (congrArg Prod.fst) (congrArg Prod.fst)
  intro part among
  rcases names with same | same
  all_goals
    rw [same, List.mem_singleton] at among
    subst among
    exact ⟨by decide, by decide, by decide⟩

def unit : SourceUnit where
  id := "u"
  name := "u"
  documents := [⟨"a", text ['\n']⟩]

/-- What is loaded, whichever line breaks the file has. -/
def workspace : Workspace where
  root := some []
  units := [⟨unit, unit⟩]

/-- What is left of it without the space. -/
def trimmed : Workspace where
  root := some []
  units := [⟨unit.replacing "a" ['x', '\n', 'y', '\n'], unit⟩]

def outcomes : Compilers.Outcomes := fun _ => {}

theorem exists_load {lineBreak : Text} (either : lineBreak = ['\n'] ∨ lineBreak = ['\r', '\n']) :
    ∃ manifest : Manifest Unit,
      Manifest.load formats outcomes (tree lineBreak) ["m"] = .ok manifest ∧
      manifest.workspace = workspace := by
  rcases either with rfl | rfl
  · exact exists_of_map_toOption Manifest.workspace (by decide +kernel)
  · exact exists_of_map_toOption Manifest.workspace (by decide +kernel)

/-- The file of the lines without the space, if lines end with LF. -/
theorem load_save_keeps_iff_unmarked :
    ∃ manifest : Manifest Unit, Manifest.load formats outcomes (tree ['\n']) ["m"] = .ok manifest ∧
      (tree ['\n']).IsProper ∧ (manifest.workspace.documents.map (·.2.path)).Nodup ∧
      ("u", ⟨"a", text ['\n']⟩) ∈ manifest.workspace.documents ∧
      ∃ next saved, manifest.workspace.tryEdit "u" 0 [TextEdit.replacing "a" ['x'] [' '] []] =
          .ok (true, next) ∧ next.save (tree ['\n']) = .ok saved ∧ saved.fault = none ∧
        saved.files.content? ["a"] = some (Utf8.encode ['x', '\n', 'y', '\n']) := by
  obtain ⟨manifest, loaded, same⟩ := exists_load (.inl rfl)
  have distinct : (manifest.workspace.documents.map (·.2.path)).Nodup := by
    rw [same]
    decide
  have member : ("u", ⟨"a", text ['\n']⟩) ∈ manifest.workspace.documents := by
    rw [same]
    decide
  obtain ⟨root, place, bytes, said, below, read, -, replaces⟩ :=
    Manifest.load_save_keeps_iff (isProper_tree ['\n']) loaded distinct member
  obtain rfl : [] = root := Option.some.inj ((congrArg Workspace.root same).symm.trans below)
  have leads : (Document.place? [] ⟨"a", text ['\n']⟩) = some ["a"] := by decide +kernel
  obtain rfl : ["a"] = place := Option.some.inj (leads.symm.trans read.leads)
  obtain rfl : Utf8.encode (text ['\n']) = bytes := Option.some.inj
    ((show (tree ['\n']).content? ["a"] = _ by decide +kernel).symm.trans read.holds)
  obtain rfl : text ['\n'] = said := Except.ok.inj
    ((show Utf8.decode (Utf8.encode (text ['\n'])) = .ok (text ['\n']) by decide +kernel).symm.trans
      read.decodes)
  obtain ⟨next, landed, saves⟩ := replaces ['x'] [' '] ['\n', 'y', '\n'] []
    ⟨rfl, by decide, by decide⟩ (by decide)
  have edited : manifest.workspace.tryEdit "u" 0 [TextEdit.replacing "a" ['x'] [' '] []] =
      .ok (true, trimmed) := by
    rw [same]
    decide +kernel
  obtain rfl : trimmed = next := (Prod.mk.inj (Except.ok.inj (edited.symm.trans landed))).2
  obtain ⟨saved, saved', keeps⟩ := saves (tree ['\n'])
  obtain ⟨other, saves, complete⟩ := exists_of_map_toOption Saved.fault
    (show (trimmed.save (tree ['\n'])).toOption.map _ = some none by decide +kernel)
  obtain rfl : other = saved := Except.ok.inj (saves.symm.trans saved')
  exact ⟨manifest, loaded, isProper_tree _, distinct, member, trimmed, other, edited, saves, complete,
    (keeps complete).2.1.mpr (by decide)⟩

/-- If they end with CRLF, the document does not say what is in the file, and the file that is
written has LF at the end of both lines. -/
theorem load_save_loses :
    ∃ manifest : Manifest Unit,
      Manifest.load formats outcomes (tree ['\r', '\n']) ["m"] = .ok manifest ∧
      (manifest.workspace.documents.map (·.2.path)).Nodup ∧
      (∃ document, ("u", document) ∈ manifest.workspace.documents ∧ document.path = "a" ∧
        (tree ['\r', '\n']).content? ["a"] ≠ some (Utf8.encode document.text)) ∧
      ∃ next saved, manifest.workspace.tryEdit "u" 0 [TextEdit.replacing "a" ['x'] [' '] []] =
          .ok (true, next) ∧ next.save (tree ['\r', '\n']) = .ok saved ∧ saved.fault = none ∧
        saved.files.content? ["a"] = some (Utf8.encode ['x', '\n', 'y', '\n']) ∧
        saved.files.content? ["a"] ≠ some (Utf8.encode ['x', '\r', '\n', 'y', '\r', '\n']) := by
  obtain ⟨manifest, loaded, same⟩ := exists_load (.inr rfl)
  obtain ⟨saved, saves, seen⟩ := exists_of_map_toOption
    (fun saved => (saved.fault, saved.files.content? ["a"]))
    (show (trimmed.save (tree ['\r', '\n'])).toOption.map _ =
      some (none, some (Utf8.encode ['x', '\n', 'y', '\n'])) by decide +kernel)
  obtain ⟨complete, holds⟩ := Prod.mk.inj seen
  refine ⟨manifest, loaded, ?_, ?_, trimmed, saved, ?_, saves, complete, holds, ?_⟩
  · rw [same]
    decide
  · rw [same]
    exact ⟨⟨"a", text ['\n']⟩, by decide, rfl, by decide +kernel⟩
  · rw [same]
    decide +kernel
  · rw [holds]
    decide +kernel

end Couplet

end FixLoop
