import ContentGraph.Proofs.Inference.Fields
import ContentGraph.Proofs.Node.Attribute
import ContentGraph.Proofs.Reference.Follow

/-!
# Unrelated nodes have no influence on a reference

All nodes of a site are there when a reference is followed, and any of them could
carry the value that is looked up. But a reference looks among the files and among
the nodes of the type that its field links to, and nowhere else
(`Reference.IsRelated`), and of those with the same type and identifier only at the
first. So two collections with the same first nodes among the related ones are the
same to it (`Reference.resolve_unaffected`), however else they differ.

A resolution carries the node it ended at, and the same node has another place in
another collection. The comparison is therefore made among *objects* that have nodes
for contents: a resolution among objects carries the object itself. Two objects may
have the same contents, so that more is said than that the contents are the same.
-/

namespace ContentGraph

/-- The type and the identifier of a node, under which it is looked up. -/
def Node.typedId (n : Node) : String × String := (n.type, n.id)

/-- An outcome with its node read as something else. -/
def Outcome.map {α β : Type} (f : α → β) : Outcome α → Outcome β
  | .linked rule n => .linked rule (f n)
  | .unresolved => .unresolved
  | .empty => .empty

/-- A resolution with its node read as something else. -/
def Resolution.map {α β : Type} (f : α → β) (r : Resolution α) : Resolution β :=
  ⟨r.outcome.map f, r.targetType, r.linkPath⟩

namespace Reference

/-- **The types that a reference may look at**: that of files, and the one that its
field links to. -/
def IsRelated (config : SiteConfig) (n : Node) (field type : String) : Prop :=
  type = fileType ∨ linkedType? config n field = some type

instance (config : SiteConfig) (n : Node) (field type : String) :
    Decidable (IsRelated config n field type) :=
  inferInstanceAs (Decidable (_ ∨ _))

/-! ## Two collections with the same answers -/

/-- **Collections that answer alike** when they are asked for nodes of the related
types: the members they find have the same node, and what is read off them, by `f` in
one collection and by `g` in the other, is the same. -/
structure AnswerAlike {β : Type} (related : String → Prop) (f g : Member → β)
    (c d : Collection) : Prop where
  /-- The nodes are the same. -/
  node_eq : ∀ type, related type → ∀ id,
    (c.find? type id).map (·.node) = (d.find? type id).map (·.node)
  /-- What is read off them is the same. -/
  read_eq : ∀ type, related type → ∀ id, (c.find? type id).map f = (d.find? type id).map g

section AnswerAlike

variable {β : Type} {f g : Member → β} {c d : Collection} {working : String}
  {config : SiteConfig} {n : Node} {field : String}

/-- Where what is found is read alike, nothing is found in both or something is. -/
theorem found_cases {α γ : Type} {f : α → β} {g : γ → β} {o : Option α} {o' : Option γ}
    (h : o.map f = o'.map g) :
    (o = none ∧ o' = none) ∨ ∃ m m', o = some m ∧ o' = some m' ∧ f m = g m' := by
  cases o with
  | none => exact .inl ⟨rfl, Option.map_eq_none_iff.1 h.symm⟩
  | some m =>
    obtain ⟨m', ho', hm⟩ := Option.map_eq_some_iff.1 h.symm
    exact .inr ⟨m, m', rfl, ho', hm.symm⟩

variable (h : AnswerAlike (IsRelated config n field) f g c d)

include h

theorem AnswerAlike.sourceDirectory?_eq :
    sourceDirectory? ⟨c, config⟩ n = sourceDirectory? ⟨d, config⟩ n := by
  unfold sourceDirectory?
  obtain ⟨hc, hd⟩ | ⟨m, m', hc, hd, hm⟩ :=
    found_cases (h.node_eq fileType (.inl rfl) n.sourceNodeId)
  · rw [hc, hd]
  · rw [hc, hd, Option.bind_some, Option.bind_some, hm]

theorem AnswerAlike.map_fileAt? (path : Option String) :
    (fileAt? ⟨c, config⟩ path).map f = (fileAt? ⟨d, config⟩ path).map g := by
  cases path with
  | none => rfl
  | some p => exact h.read_eq fileType (.inl rfl) (.string p)

theorem AnswerAlike.map_resolvePath (path : Option String) :
    (resolvePath ⟨c, config⟩ (linkedType? config n field) path).map f
      = (resolvePath ⟨d, config⟩ (linkedType? config n field) path).map g := by
  unfold resolvePath
  split
  · obtain ⟨hc, hd⟩ | ⟨m, m', hc, hd, hm⟩ := found_cases (h.map_fileAt? path)
    · rw [hc, hd]
      rfl
    · rw [hc, hd]
      simp only [Resolution.map, Outcome.map, hm]
  · rfl

theorem AnswerAlike.map_resolveTyped (value : Value) (path : Option String) :
    (resolveTyped ⟨c, config⟩ (linkedType? config n field) value path).map f
      = (resolveTyped ⟨d, config⟩ (linkedType? config n field) value path).map g := by
  have hfound : (((linkedType? config n field).filter fun t => t ≠ "").bind
        fun t => c.find? t value).map f
      = (((linkedType? config n field).filter fun t => t ≠ "").bind
        fun t => d.find? t value).map g := by
    cases ht : (linkedType? config n field).filter fun t => t ≠ "" with
    | none => rfl
    | some type => exact h.read_eq type (.inr (Option.filter_eq_some_iff.1 ht).1) value
  unfold resolveTyped
  obtain ⟨hc, hd⟩ | ⟨m, m', hc, hd, hm⟩ := found_cases hfound
  · simp only [hc, hd]
    exact h.map_resolvePath path
  · simp only [hc, hd, Resolution.map, Outcome.map, hm]

theorem AnswerAlike.map_resolveValue (value : Value) :
    (resolveValue working ⟨c, config⟩ n field value).map f
      = (resolveValue working ⟨d, config⟩ n field value).map g := by
  unfold resolveValue
  rw [h.sourceDirectory?_eq]
  cases hlink : Shape.isFileLink value with
  | false => exact h.map_resolveTyped value _
  | true =>
    obtain ⟨hc, hd⟩ | ⟨m, m', hc, hd, hm⟩ :=
      found_cases (h.map_fileAt? (linkPath? working (sourceDirectory? ⟨d, config⟩ n) value))
    · simp only [if_true, hc, hd]
      exact h.map_resolveTyped value _
    · simp only [if_true, hc, hd, Resolution.map, Outcome.map, hm]

/-- **A reference leads to the same in collections that answer alike.** Every look-up
is for a related type: the source for its directory, the file that the value names, the
node that it identifies, and the file at its path. -/
theorem AnswerAlike.map_resolve :
    (resolve working ⟨c, config⟩ n field).map f
      = (resolve working ⟨d, config⟩ n field).map g := by
  rw [resolve, resolve]
  split
  · rfl
  · exact h.map_resolveValue _

end AnswerAlike

/-! ## Among objects -/

section Objects

variable {α : Type} (content : α → Node)

/-- **The first object with a type and an identifier.** -/
def first? (objects : List α) (typedId : String × String) : Option α :=
  objects.find? fun x => decide ((content x).typedId = typedId)

/-- **Objects that agree** on types: for each of the types and each identifier, the first
object that has them is the same. -/
def AgreeOn (types : String → Prop) (as bs : List α) : Prop :=
  ∀ type, types type → ∀ id, first? content as (type, id) = first? content bs (type, id)

/-- **Where a reference leads among objects**: the resolution in the collection of
their nodes, with the object at the place of the member in place of the member. -/
def resolveAmong (working : String) (config : SiteConfig) (objects : List α) (n : Node)
    (field : String) : Resolution (Option α) :=
  (resolve working ⟨.ofNodes (objects.map content), config⟩ n field).map
    fun m => objects[m.index]?

/-- The members of a collection are the objects at their places. -/
theorem find?_ofNodes_map (objects : List α) (type id : String) :
    (Collection.ofNodes (objects.map content)).find? type (.string id)
      = (objects.zipIdx.find? fun x => decide ((content x.1).typedId = (type, id))).map
        fun x => ⟨x.2, content x.1⟩ := by
  rw [Collection.find?_ofNodes]
  show (List.map _ ((objects.map content).zipIdx)).find? _ = _
  rw [List.zipIdx_map, List.map_map, List.find?_map]
  refine congrArg₂ Option.map rfl (congrArg (fun p => List.find? p _) (funext fun x => ?_))
  show decide (Member.Matches type (.string id) ⟨x.2, content x.1⟩) = _
  refine decide_eq_decide.2 ?_
  rw [Member.Matches, Value.string.injEq, Node.typedId, Prod.mk.injEq]

/-- **The object at the place of the member that is found is the first one** with the
type and the identifier. -/
theorem map_object_find? (objects : List α) (type id : String) :
    ((Collection.ofNodes (objects.map content)).find? type (.string id)).map
        (fun m => objects[m.index]?)
      = (first? content objects (type, id)).map some := by
  have hfirst : first? content objects (type, id)
      = (objects.zipIdx.find? fun x => decide ((content x.1).typedId = (type, id))).map (·.1) := by
    unfold first?
    conv_lhs => rw [← List.zipIdx_map_fst 0 objects, List.find?_map]
    rfl
  rw [find?_ofNodes_map, hfirst, Option.map_map, Option.map_map]
  cases hfind : objects.zipIdx.find? fun x => decide ((content x.1).typedId = (type, id)) with
  | none => rfl
  | some x =>
    exact congrArg some (List.mem_zipIdx_iff_getElem?.1 (List.mem_of_find?_eq_some hfind))

/-- The node of the member that is found is the content of the first object. -/
theorem map_node_find? (objects : List α) (type id : String) :
    ((Collection.ofNodes (objects.map content)).find? type (.string id)).map (·.node)
      = (first? content objects (type, id)).map content := by
  unfold first?
  rw [find?_ofNodes_map, Option.map_map]
  conv_rhs => rw [← List.zipIdx_map_fst 0 objects, List.find?_map, Option.map_map]
  rfl

variable {content} {working : String} {config : SiteConfig} {n : Node} {field : String}

/-- Collections of objects that agree answer alike. -/
theorem AgreeOn.answerAlike {types : String → Prop} {as bs : List α}
    (h : AgreeOn content types as bs) :
    AnswerAlike types (fun m => as[m.index]?) (fun m => bs[m.index]?)
      (.ofNodes (as.map content)) (.ofNodes (bs.map content)) where
  node_eq type htype id := by
    cases id with
    | string s => rw [map_node_find?, map_node_find?, h type htype s]
    | _ => rfl
  read_eq type htype id := by
    cases id with
    | string s => rw [map_object_find?, map_object_find?, h type htype s]
    | _ => rfl

/-- An object that a reference leads to is one of the objects: the place of the member
is always there. -/
theorem isSome_of_resolveAmong {objects : List α} {rule : LinkRule} {o : Option α}
    (h : (resolveAmong content working config objects n field).outcome = .linked rule o) :
    o.isSome = true := by
  -- The collection answers like itself if this is read off each member it finds.
  have hthere : AnswerAlike (IsRelated config n field) (fun m => objects[m.index]?.isSome)
      (fun _ => true) (.ofNodes (objects.map content)) (.ofNodes (objects.map content)) :=
    { node_eq := fun _ _ _ => rfl
      read_eq := fun type _ id => by
        cases id with
        | string s =>
          have hfound := map_object_find? content objects type s
          obtain ⟨hnone, -⟩ | ⟨m, x, hsome, -, hm⟩ := found_cases hfound
          · rw [hnone]
            rfl
          · rw [hsome]
            exact congrArg (fun o => some o.isSome) hm
        | _ => rfl }
  let r := resolve working ⟨.ofNodes (objects.map content), config⟩ n field
  have hmap : (r.map fun m => objects[m.index]?.isSome) = r.map fun _ => true :=
    hthere.map_resolve
  replace hmap := congrArg Resolution.outcome hmap
  revert h hmap
  show Outcome.map _ r.outcome = _ → Outcome.map _ r.outcome = Outcome.map _ r.outcome → _
  cases r.outcome with
  | linked rule' m =>
    intro h hmap
    cases h
    exact (Outcome.linked.inj hmap).2
  | _ => exact fun h => nomatch h

/-! ## What has no influence -/

/-- Lists with the same objects of some types agree on them. -/
theorem agreeOn_of_filter_eq {types : String → Prop} [DecidablePred types] {as bs : List α}
    (h : as.filter (fun x => decide (types (content x).type))
      = bs.filter fun x => decide (types (content x).type)) : AgreeOn content types as bs := by
  intro type htype id
  have hfilter (objects : List α) : first? content objects (type, id)
      = first? content (objects.filter fun x => decide (types (content x).type)) (type, id) := by
    unfold first?
    rw [List.find?_filter]
    refine congrArg (fun p => List.find? p objects) (funext fun x => ?_)
    refine decide_eq_decide.2 ⟨fun hx => ⟨decide_eq_true ?_, decide_eq_true hx⟩,
      fun hx => of_decide_eq_true hx.2⟩
    have hxtype : (content x).type = type := congrArg Prod.fst hx
    rwa [hxtype]
  rw [hfilter, h, ← hfilter]

/-- Objects at the end are not the first ones if their types and identifiers are
there already. -/
theorem agreeOn_append (types : String → Prop) {as later : List α}
    (h : ∀ x ∈ later, ∃ y ∈ as, (content y).typedId = (content x).typedId) :
    AgreeOn content types (as ++ later) as := by
  intro type _ id
  unfold first?
  rw [List.find?_append]
  cases has : as.find? fun x => decide ((content x).typedId = (type, id)) with
  | some x => rfl
  | none =>
    rw [Option.none_or, List.find?_eq_none]
    intro x hx hkey
    obtain ⟨y, hy, hyx⟩ := h x hx
    exact List.find?_eq_none.1 has y hy (hyx ▸ hkey)

/-- Where no type and identifier come twice, the order does not matter. -/
theorem agreeOn_of_perm (types : String → Prop) {as bs : List α} (h : as.Perm bs)
    (hnodup : (as.map fun x => (content x).typedId).Nodup) : AgreeOn content types as bs :=
  fun type _ id => find?_eq_of_perm h hnodup (type, id)

/-- **Unrelated nodes have no influence on a reference.** Among objects that agree on
the related types, it leads to the same object by the same rule, with the same type and
path reported. In particular the objects of all other types may be added, removed and
exchanged, objects whose types and identifiers are there already may follow at the end,
and objects that all differ in their types and identifiers may stand in any order. What
it leads to always is one of the objects. -/
theorem resolve_unaffected (content : α → Node) (working : String) (config : SiteConfig)
    (n : Node) (field : String) :
    (∀ as bs : List α, AgreeOn content (IsRelated config n field) as bs →
      resolveAmong content working config as n field
        = resolveAmong content working config bs n field)
    ∧ (∀ as bs : List α,
      as.filter (fun x => decide (IsRelated config n field (content x).type))
        = bs.filter (fun x => decide (IsRelated config n field (content x).type)) →
      resolveAmong content working config as n field
        = resolveAmong content working config bs n field)
    ∧ (∀ as later : List α,
      (∀ x ∈ later, ∃ y ∈ as, (content y).typedId = (content x).typedId) →
      resolveAmong content working config (as ++ later) n field
        = resolveAmong content working config as n field)
    ∧ (∀ as bs : List α, as.Perm bs → (as.map fun x => (content x).typedId).Nodup →
      resolveAmong content working config as n field
        = resolveAmong content working config bs n field)
    ∧ (∀ (as : List α) (rule : LinkRule) (o : Option α),
      (resolveAmong content working config as n field).outcome = .linked rule o →
        o.isSome = true) := by
  have hagree : ∀ as bs : List α, AgreeOn content (IsRelated config n field) as bs →
      resolveAmong content working config as n field
        = resolveAmong content working config bs n field :=
    fun _ _ h => h.answerAlike.map_resolve
  refine ⟨hagree, ?_, ?_, ?_, fun _ _ _ h => isSome_of_resolveAmong h⟩
  · exact fun as bs h => hagree as bs (agreeOn_of_filter_eq h)
  · exact fun as later h => hagree _ _ (agreeOn_append _ h)
  · exact fun as bs h hnodup => hagree as bs (agreeOn_of_perm _ h hnodup)

end Objects

/-- An essay with an author. -/
def essay : Node := .ofFields "one" "Essay" [(.string "author___person", .string "ada")]

/-- A person. -/
def ada : Node := .ofFields "ada" "Person" [(.string "born", .int 1815)]

/-- A tag with the identifier of the person. -/
def adaTag : Node := .ofFields "ada" "Tag" []

/-- Another person with that identifier. -/
def otherAda : Node := .ofFields "ada" "Person" []

/-- **The author of an essay is the same person** whether or not there is a tag of that
name before and another person after, and when the essay has changed places with the
person. -/
theorem author_unaffected :
    resolveAmong id "/" .empty [essay, ada] essay "author___person"
        = ⟨.linked .directId (some ada), some "Person", none⟩
      ∧ resolveAmong id "/" .empty [adaTag, ada, otherAda] essay "author___person"
        = ⟨.linked .directId (some ada), some "Person", none⟩
      ∧ resolveAmong id "/" .empty [ada, essay] essay "author___person"
        = ⟨.linked .directId (some ada), some "Person", none⟩ := by
  have hada : resolveAmong id "/" .empty [essay, ada] essay "author___person"
      = ⟨.linked .directId (some ada), some "Person", none⟩ := by
    unfold resolveAmong resolve resolveValue resolveTyped sourceDirectory?
    simp only [Collection.find?_ofNodes]
    decide +kernel
  obtain ⟨-, hother, hlater, horder, -⟩ :=
    resolve_unaffected id "/" .empty essay "author___person"
  refine ⟨hada, ?_, ?_⟩
  · calc resolveAmong id "/" .empty ([adaTag, ada] ++ [otherAda]) essay "author___person"
        = resolveAmong id "/" .empty [adaTag, ada] essay "author___person" :=
          hlater [adaTag, ada] [otherAda] (by decide +kernel)
      _ = resolveAmong id "/" .empty [essay, ada] essay "author___person" :=
          hother [adaTag, ada] [essay, ada] (by decide +kernel)
      _ = _ := hada
  · exact (horder [ada, essay] [essay, ada] (.swap essay ada []) (by decide)).trans hada

end Reference

end ContentGraph
