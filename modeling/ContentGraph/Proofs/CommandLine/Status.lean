import ContentGraph.Proofs.CommandLine.Refusal
import ContentGraph.Proofs.Node.Lookup
import ContentGraph.Proofs.Reference.Follow
import ContentGraph.Proofs.Registry.Precedence

/-!
# What a request ends with

Once the nodes and the configuration are loaded, a request is carried out by
several look-ups in turn: of the node by its identifier, of two types with one
key, of the type by its name, and last of the reference itself. More than one of
them may fail, and then it is their order that decides how the program ends.

How a request ends is said here of the nodes alone, without a registry
(`CommandLine.Ends`). A node that does not exist is the first thing that counts,
then types with one key, then a node that marks a root. In each of these cases
nothing is written; else it is what the field leads to. A program ends in exactly
this way (`CommandLine.Invocation.run_iff_ends`), if the output has codes for the
identifier that is written. If not it fails, and this is the only failure that is
left once a document is read: one with half of a character, which no output has a
code for, is not (`Document.Unread`).
-/

namespace ContentGraph

theorem Collection.exists_ofNodes_of_load {room : Nat} {name : String}
    {content : Document.Found} {c : Collection} (h : load room name content = .ok c) :
    ∃ nodes, c = .ofNodes nodes := by
  cases hread : content.read room (Document.FileName.format name) with
  | error fault =>
    rw [load_of_read_eq_error hread] at h
    cases h
  | ok document =>
    rw [load_of_read_eq_ok hread] at h
    cases hrecords : recordsIn? document with
    | none =>
      rw [hrecords] at h
      cases h
    | some records =>
      rw [hrecords, Option.elim_some, ofRecords] at h
      cases hnodes : records.mapM Node.ofRecord with
      | error fault =>
        rw [hnodes] at h
        cases h
      | ok nodes =>
        rw [hnodes] at h
        exact ⟨nodes, (Except.ok.inj h).symm⟩

/-- A type that marks a root is not found by its name. -/
theorem Registry.Represents.byTag?_of_root {r : Registry} {c : Collection} {m : Member}
    (h : r.Represents c) (hm : m ∈ c.members) (hroot : isReservedRoot m.node.type = true) :
    r.byTag? m.node.type = none := by
  refine List.find?_eq_none.2 fun d hd heq => ?_
  have haccepts := (h.roots m hm hroot d hd).2
  rw [TypeDescriptor.accepts, Bool.beq_comm, heq] at haccepts
  cases haccepts

theorem Outcome.node?_eq_none_iff {α : Type} {o : Outcome α} :
    o.node? = none ↔ ∀ rule n, o ≠ .linked rule n := by
  cases o <;> simp [node?]

theorem Outcome.node?_eq_some_iff {α : Type} {o : Outcome α} {n : α} :
    o.node? = some n ↔ ∃ rule, o = .linked rule n := by
  cases o <;> simp [node?]

namespace CommandLine

/-- **How a request ends**, by the working directory, the nodes and the
configuration: with which status, and with what written. -/
inductive Ends (working : String) (c : Collection) (config : SiteConfig) :
    Request → Nat → String → Prop
  /-- Two types have one key, so nothing can be described. -/
  | notDescribed {file : String} {given : Option String} {fields : Bool} (h : c.KeysCollide) :
      Ends working c config (.describe file given fields) 3 ""
  /-- Everything is described, in the log. -/
  | described {file : String} {given : Option String} {fields : Bool} (h : ¬ c.KeysCollide) :
      Ends working c config (.describe file given fields) 0 ""
  /-- No node has the identifier. -/
  | unknown {file id field : String} {given : Option String}
      (hid : ∀ m ∈ c.members, m.node.id ≠ id) :
      Ends working c config (.resolve file id field given) 2 ""
  /-- There is a node, but two types have one key. -/
  | notBuilt {file id field : String} {given : Option String} {m : Member}
      (hm : c.IsFirstNamed id m) (h : c.KeysCollide) :
      Ends working c config (.resolve file id field given) 3 ""
  /-- The first node with the identifier marks a root. -/
  | root {file id field : String} {given : Option String} {m : Member}
      (hm : c.IsFirstNamed id m) (h : ¬ c.KeysCollide)
      (hroot : isReservedRoot m.node.type = true) :
      Ends working c config (.resolve file id field given) 2 ""
  /-- Its field leads to a node. -/
  | linked {file id field : String} {given : Option String} {m target : Member} {rule : LinkRule}
      (hm : c.IsFirstNamed id m) (h : ¬ c.KeysCollide)
      (hroot : isReservedRoot m.node.type = false)
      (htarget : (Reference.resolve working ⟨c, config⟩ m.node field).outcome
        = .linked rule target) :
      Ends working c config (.resolve file id field given) 0 (target.node.id ++ "\n")
  /-- Its field leads nowhere. -/
  | unlinked {file id field : String} {given : Option String} {m : Member}
      (hm : c.IsFirstNamed id m) (h : ¬ c.KeysCollide)
      (hroot : isReservedRoot m.node.type = false)
      (hnone : ∀ rule target,
        (Reference.resolve working ⟨c, config⟩ m.node field).outcome ≠ .linked rule target) :
      Ends working c config (.resolve file id field given) 0 "null\n"

section Loaded

variable {c : Collection} {nodes : List Node} {config : SiteConfig}

theorem exists_run_of_not_keysCollide (h : ¬ c.KeysCollide) (config : SiteConfig) :
    ∃ b, Build.run c { config } = .ok b ∧ b.registry.Represents c
      ∧ b.registry.context = ⟨c, config⟩ := by
  have hrun := Build.run_no_plugins h config .standard
  exact ⟨_, hrun, Build.represents_of_run hrun, rfl⟩

theorem exists_run_of_keysCollide (h : c.KeysCollide) (config : SiteConfig) :
    ∃ e, Build.run c { config } = .error e := by
  obtain ⟨first, second, key, herror⟩ := Build.exists_run_eq_error h
  exact ⟨_, herror⟩

theorem describe_of_keysCollide (file : String) (fields : Bool) (h : c.KeysCollide) :
    ∃ log, describe file fields c config = ⟨3, "", log⟩ := by
  obtain ⟨e, hrun⟩ := exists_run_of_keysCollide h config
  rw [describe, hrun]
  exact ⟨_, rfl⟩

theorem describe_of_not_keysCollide (file : String) (fields : Bool) (h : ¬ c.KeysCollide) :
    ∃ log, describe file fields c config = ⟨0, "", log⟩ := by
  obtain ⟨b, hrun, -⟩ := exists_run_of_not_keysCollide h config
  rw [describe, hrun]
  exact ⟨_, rfl⟩

variable {id : String} (working field : String)

theorem resolve_of_unknown (hid : ∀ m ∈ (Collection.ofNodes nodes).members, m.node.id ≠ id) :
    ∃ log, resolve working id field (.ofNodes nodes) config = ⟨2, "", log⟩ := by
  rw [resolve, Collection.get?_eq_none_iff.2 hid]
  exact ⟨_, rfl⟩

variable {m : Member} (hm : (Collection.ofNodes nodes).IsFirstNamed id m)
include hm

theorem resolve_of_keysCollide (h : (Collection.ofNodes nodes).KeysCollide) :
    ∃ log, resolve working id field (.ofNodes nodes) config = ⟨3, "", log⟩ := by
  obtain ⟨e, hrun⟩ := exists_run_of_keysCollide h config
  rw [resolve, Collection.get?_eq_some_iff.2 hm]
  dsimp only
  rw [hrun]
  exact ⟨_, rfl⟩

theorem resolve_of_root (h : ¬ (Collection.ofNodes nodes).KeysCollide)
    (hroot : isReservedRoot m.node.type = true) :
    ∃ log, resolve working id field (.ofNodes nodes) config = ⟨2, "", log⟩ := by
  obtain ⟨b, hrun, hrepresents, -⟩ := exists_run_of_not_keysCollide h config
  rw [resolve, Collection.get?_eq_some_iff.2 hm]
  dsimp only
  rw [hrun]
  dsimp only
  rw [hrepresents.byTag?_of_root hm.mem hroot]
  exact ⟨_, rfl⟩

/-- Where nothing is wrong the field is followed. -/
theorem resolve_of_not_root (h : ¬ (Collection.ofNodes nodes).KeysCollide)
    (hroot : isReservedRoot m.node.type = false) :
    ∃ log, resolve working id field (.ofNodes nodes) config
      = ⟨0, ((Reference.resolve working ⟨.ofNodes nodes, config⟩ m.node field).outcome.node?.map
          (·.node.id)).getD "null" ++ "\n", log⟩ := by
  obtain ⟨b, hrun, hrepresents, hcontext⟩ := exists_run_of_not_keysCollide h config
  obtain ⟨d, -, hd, -⟩ := hrepresents.lookup m.node.type ⟨hroot, m, hm.mem, rfl⟩
  rw [resolve, Collection.get?_eq_some_iff.2 hm]
  dsimp only
  rw [hrun]
  dsimp only
  rw [hd, hcontext]
  exact ⟨_, rfl⟩

end Loaded

variable {working : String} {nodes : List Node} {config : SiteConfig}

/-- **A request ends as is said of its nodes.** -/
theorem Ends.report {request : Request} {status : Nat} {output : String}
    (h : Ends working (.ofNodes nodes) config request status output) :
    ∃ log, request.report working (.ofNodes nodes) config = ⟨status, output, log⟩ := by
  cases h with
  | notDescribed h => exact describe_of_keysCollide _ _ h
  | described h => exact describe_of_not_keysCollide _ _ h
  | unknown hid => exact resolve_of_unknown _ _ hid
  | notBuilt hm h => exact resolve_of_keysCollide _ _ hm h
  | root hm h hroot => exact resolve_of_root _ _ hm h hroot
  | linked hm h hroot htarget =>
    obtain ⟨log, hreport⟩ := resolve_of_not_root _ _ hm h hroot
    rw [htarget] at hreport
    exact ⟨log, hreport⟩
  | unlinked hm h hroot hnone =>
    obtain ⟨log, hreport⟩ := resolve_of_not_root _ _ hm h hroot
    rw [Outcome.node?_eq_none_iff.2 hnone] at hreport
    exact ⟨log, hreport⟩

/-- **Every request ends in one of these ways.** -/
theorem exists_ends (working : String) (nodes : List Node) (config : SiteConfig)
    (request : Request) :
    ∃ status output, Ends working (.ofNodes nodes) config request status output := by
  cases request with
  | describe file given fields =>
    by_cases h : (Collection.ofNodes nodes).KeysCollide
    · exact ⟨3, _, .notDescribed h⟩
    · exact ⟨0, _, .described h⟩
  | resolve file id field given =>
    cases hget : (Collection.ofNodes nodes).get? id with
    | none => exact ⟨2, _, .unknown (Collection.get?_eq_none_iff.1 hget)⟩
    | some m =>
      have hm := Collection.get?_eq_some_iff.1 hget
      by_cases h : (Collection.ofNodes nodes).KeysCollide
      · exact ⟨3, _, .notBuilt hm h⟩
      · cases hroot : isReservedRoot m.node.type with
        | true => exact ⟨2, _, .root hm h hroot⟩
        | false =>
          cases hnode :
              (Reference.resolve working ⟨.ofNodes nodes, config⟩ m.node field).outcome.node? with
          | none => exact ⟨0, _, .unlinked hm h hroot (Outcome.node?_eq_none_iff.1 hnode)⟩
          | some target =>
            obtain ⟨rule, htarget⟩ := Outcome.node?_eq_some_iff.1 hnode
            exact ⟨0, _, .linked hm h hroot htarget⟩

/-- What is loaded is the collection of some nodes. -/
theorem exists_ofNodes_of_loadInputs {env : Environment} {request : Request}
    {c : Collection} (h : loadInputs env request = .ok (.ok (c, config))) :
    ∃ nodes, c = .ofNodes nodes := by
  unfold loadInputs at h
  cases hload : Collection.load env.room request.nodes (env.found request.nodes) with
  | error e =>
    rw [hload] at h
    dsimp only at h
    split at h <;> cases h
  | ok loaded =>
    rw [hload] at h
    dsimp only at h
    obtain rfl : loaded = c := by
      split at h
      · cases h
        rfl
      · split at h
        · cases h
          rfl
        · split at h <;> cases h
    exact Collection.exists_ofNodes_of_load hload

/-- **The way in which a request ends is that of its report.** -/
theorem ends_iff {request : Request} {status : Nat} {output : String} :
    Ends working (.ofNodes nodes) config request status output
      ↔ (request.report working (.ofNodes nodes) config).status = status
        ∧ (request.report working (.ofNodes nodes) config).output = output := by
  constructor
  · intro hends
    obtain ⟨log, hreport⟩ := hends.report
    rw [hreport]
    exact ⟨rfl, rfl⟩
  · rintro ⟨rfl, rfl⟩
    obtain ⟨status, output, hends⟩ := exists_ends working nodes config request
    obtain ⟨log, hreport⟩ := hends.report
    rw [hreport]
    exact hends

/-- **A program ends exactly as is said of its nodes**, for every environment and
every invocation whose nodes and configuration are loaded: it comes to a report,
and the request ends with the status and the output of this report and with no
other. Only if the output has no code for a character of an identifier that is to
be written does the program fail, and this is then all that fails. -/
theorem Invocation.run_iff_ends {env : Environment} {i : Invocation} {c : Collection}
    {config : SiteConfig} (hload : loadInputs env i.request = .ok (.ok (c, config))) :
    ∃ report : Report,
      i.run env = (if report.output.toList.all env.encodes then .ok report
        else .error (.unwritten report.output))
      ∧ ∀ status output, Ends env.working c config i.request status output
        ↔ report.status = status ∧ report.output = output := by
  obtain ⟨nodes, rfl⟩ := exists_ofNodes_of_loadInputs hload
  refine ⟨{ i.request.report env.working (.ofNodes nodes) config with
    log := LogEntry.atLeast i.level (i.request.report env.working (.ofNodes nodes) config).log },
    ?_, fun _ _ => ends_iff⟩
  rw [Invocation.run, Request.run_of_loaded hload, Report.written]
  split <;> rfl

/-- A root and three pages, of which two have one identifier and the first of
these leads to the last. -/
def pagesText : String :=
  "[\x7b\x22id\x22:\x22/\x22,\x22type\x22:\x22root\x22\x7d,"
    ++ "\x7b\x22id\x22:\x22p\x22,\x22type\x22:\x22Page\x22,\x22next___Page\x22:\x22q\x22\x7d,"
    ++ "\x7b\x22id\x22:\x22p\x22,\x22type\x22:\x22root\x22\x7d,"
    ++ "\x7b\x22id\x22:\x22q\x22,\x22type\x22:\x22Page\x22\x7d]"

/-- The page that leads to another. -/
def leadingPage : Node := .ofFields "p" "Page" [(.string "next___Page", .string "q")]

/-- The nodes of the file. -/
def pagesNodes : List Node :=
  [.ofFields "/" "root" [], leadingPage, .ofFields "p" "root" [], .ofFields "q" "Page" []]

/-- The invocation to follow a field of a node. -/
def resolveIn (id field : String) : Invocation := ⟨.error, .resolve "nodes.json" id field none⟩

/-- The records of the file. -/
def pagesRecords : List Value :=
  [.map [(.string "id", .string "/"), (.string "type", .string "root")],
    .map [(.string "id", .string "p"), (.string "type", .string "Page"),
      (.string "next___Page", .string "q")],
    .map [(.string "id", .string "p"), (.string "type", .string "root")],
    .map [(.string "id", .string "q"), (.string "type", .string "Page")]]

/-- Where every file has the nodes, and the output has codes for some characters. -/
def pagesFor (encodes : Char → Bool) : Environment := { allFiles pagesText with encodes }

theorem loadInputs_pages (encodes : Char → Bool) (id field : String) :
    loadInputs (pagesFor encodes) (resolveIn id field).request
      = .ok (.ok (.ofNodes pagesNodes, .empty)) := by
  have hformat : Document.FileName.format "nodes.json" = .json := by decide +kernel
  have hread : (textFile pagesText).read 2 (Document.FileName.format "nodes.json")
      = .ok (.list pagesRecords) := by
    rw [hformat]
    exact read_textFile (eq_ok_of_toOption (by decide +kernel))
  have hnodes : pagesRecords.mapM Node.ofRecord = .ok pagesNodes := rfl
  have hload : Collection.load 2 "nodes.json" (textFile pagesText)
      = .ok (.ofNodes pagesNodes) := by
    rw [Collection.load_of_read_eq_ok hread]
    show (Collection.ofRecords pagesRecords).mapError LoadError.node = _
    rw [Collection.ofRecords, hnodes]
    rfl
  show loadInputs _ (.resolve "nodes.json" id field none) = _
  unfold loadInputs
  simp only [pagesFor, allFiles, Request.nodes, hload]
  rfl

theorem outcome_leadingPage :
    (Reference.resolve "/" ⟨.ofNodes pagesNodes, .empty⟩ leadingPage "next___Page").outcome
      = .linked .directId ⟨3, .ofFields "q" "Page" []⟩ := by
  rw [Reference.outcome_resolve _ _ (by decide)]
  simp only [Reference.linkCandidate?, Reference.typedCandidate?, Reference.pathCandidate?,
    Reference.fileAt?, Reference.linkPath?, Reference.sourceDirectory?, Collection.find?_ofNodes]
  decide +kernel

/-- The first page is followed to the last one, and the root is refused. Where
there is no code for a letter the identifier of the last page is not written. -/
theorem run_resolveIn_pages :
    (∀ encodes id field, loadInputs (pagesFor encodes) (resolveIn id field).request
        = .ok (.ok (.ofNodes pagesNodes, .empty)))
      ∧ (∃ log, (resolveIn "p" "next___Page").run (pagesFor fun _ => true)
        = .ok ⟨0, "q\n", log⟩)
      ∧ (resolveIn "p" "next___Page").run (pagesFor (· != 'q')) = .error (.unwritten "q\n")
      ∧ ∃ log, (resolveIn "/" "next___Page").run (pagesFor fun _ => true)
        = .ok ⟨2, "", log⟩ := by
  have hkeys : ¬ (Collection.ofNodes pagesNodes).KeysCollide :=
    Collection.nodup_keys_iff.1 (by decide)
  have hfirst : (Collection.ofNodes pagesNodes).IsFirstNamed "p" ⟨1, leadingPage⟩ :=
    ⟨rfl, [⟨0, .ofFields "/" "root" []⟩], _, rfl, by decide⟩
  refine ⟨loadInputs_pages, ?_, ?_, ?_⟩
  · obtain ⟨⟨status, output, log⟩, hrun, hends⟩ :=
      Invocation.run_iff_ends (loadInputs_pages (fun _ => true) "p" "next___Page")
    obtain ⟨rfl, rfl⟩ := (hends _ _).1 (.linked hfirst hkeys rfl outcome_leadingPage)
    have hcodes : "q\n".toList.all (fun _ => true) = true := by decide
    exact ⟨log, hrun.trans (if_pos hcodes)⟩
  · obtain ⟨⟨status, output, log⟩, hrun, hends⟩ :=
      Invocation.run_iff_ends (loadInputs_pages (· != 'q') "p" "next___Page")
    obtain ⟨rfl, rfl⟩ := (hends _ _).1 (.linked hfirst hkeys rfl outcome_leadingPage)
    have hcodes : ¬ "q\n".toList.all (· != 'q') = true := by decide
    exact hrun.trans (if_neg hcodes)
  · obtain ⟨⟨status, output, log⟩, hrun, hends⟩ :=
      Invocation.run_iff_ends (loadInputs_pages (fun _ => true) "/" "next___Page")
    have hfirst : (Collection.ofNodes pagesNodes).IsFirstNamed "/"
        ⟨0, .ofFields "/" "root" []⟩ := ⟨rfl, [], _, rfl, List.forall_mem_nil _⟩
    obtain ⟨rfl, rfl⟩ := (hends _ _).1 (.root hfirst hkeys rfl)
    exact ⟨log, hrun.trans (if_pos rfl)⟩

end CommandLine

end ContentGraph
