import ContentGraph.Link.Path

/-!
# A link leads to the one spelling of a path

A linked file is found by its path, and two paths are the same only if they are
the same text. So a path that a link leads to must not be one of many spellings:
it is the slashes of the root and then names, with one slash between two of them
(`Path.IsNormal`).

A walk along a path is a fold over its components, which goes up and down from
where it starts. It can be interrupted at every slash (`Path.walk_append`), and
along names it only goes down (`Path.walk_joinComponents`). That is why a path in
normal form leads to itself, from wherever it is followed, and why it does not
matter whether a link is followed in one step or in two
(`Path.resolve_normalizes`).
-/

namespace ContentGraph.Path

/-! ## Paths in normal form -/

/-- **A component that names something**: it is not empty, no step to the place
itself or to the one above, and in one piece. -/
def IsName (component : List Char) : Prop :=
  component ∉ [[], ['.'], ['.', '.']] ∧ '/' ∉ component

/-- How many slashes a path begins with. -/
def leadingSlashes (path : List Char) : Nat := (path.takeWhile (· == '/')).length

/-- **A path in normal form**, given the slashes of its root. -/
structure IsNormal (slashes path : List Char) : Prop where
  /-- It starts at the root. -/
  isAbsolute_eq : isAbsolute path = true
  /-- After the root come names, with one slash between two of them. -/
  exists_names : ∃ names, (∀ name ∈ names, IsName name)
    ∧ path = slashes ++ ['/'].intercalate names
  /-- It ends in a slash only at the root. -/
  eq_root : path.getLast? = some '/' → path = slashes

/-! ## Components -/

variable {above : List (List Char)} {p q w d v a b : List Char}

theorem components_eq_splitOn (p : List Char) : components p = p.splitOn '/' := by
  induction p with
  | nil => rfl
  | cons c rest ih =>
    rw [components, List.splitOn_cons_eq_if_modifyHead, ih]
    by_cases hc : c = '/'
    · rw [if_pos hc, if_pos (beq_iff_eq.2 hc)]
    · rw [if_neg hc, if_neg (mt beq_iff_eq.1 hc)]
      obtain ⟨first, more, hsplit⟩ := List.exists_cons_of_ne_nil (List.splitOn_ne_nil '/' rest)
      rw [hsplit]
      rfl

theorem slash_notMem_of_mem_components {component : List Char} (h : component ∈ components p) :
    '/' ∉ component := by
  induction p generalizing component with
  | nil =>
    obtain rfl := List.mem_singleton.1 h
    exact List.not_mem_nil
  | cons c rest ih =>
    rw [components_eq_splitOn, List.splitOn_cons_eq_if_modifyHead,
      ← components_eq_splitOn] at h
    by_cases hc : c = '/'
    · rw [if_pos (beq_iff_eq.2 hc)] at h
      rcases List.mem_cons.1 h with rfl | h
      · exact List.not_mem_nil
      · exact ih h
    · rw [if_neg (mt beq_iff_eq.1 hc)] at h
      cases hrest : components rest with
      | nil => rw [hrest] at h; cases h
      | cons first more =>
        rw [hrest, List.modifyHead_cons] at h
        rcases List.mem_cons.1 h with rfl | h
        · rw [List.mem_cons, not_or]
          exact ⟨Ne.symm hc, ih (hrest ▸ List.mem_cons_self)⟩
        · exact ih (hrest ▸ List.mem_cons_of_mem _ h)

theorem joinComponents_eq_intercalate (names : List (List Char)) :
    joinComponents names = ['/'].intercalate names := by
  induction names with
  | nil => rfl
  | cons name rest ih =>
    cases rest with
    | nil => exact List.intercalate_singleton.symm
    | cons next rest =>
      rw [joinComponents, ih, List.intercalate_cons_cons, List.append_assoc]
      · rfl
      · exact nofun

/-! ## Walking along a path -/

/-- Where a path leads from some components, the nearest first. -/
def walk (above : List (List Char)) (path : List Char) : List (List Char) :=
  (components path).foldl step above

theorem normalComponents_eq (p : List Char) : normalComponents p = (walk [] p).reverse := rfl

@[simp] theorem walk_nil (above : List (List Char)) : walk above [] = above := rfl

/-- **A walk can be interrupted at a slash.** -/
theorem walk_append (above : List (List Char)) (p q : List Char) :
    walk above (p ++ '/' :: q) = walk (walk above p) q := by
  unfold walk
  simp only [components_eq_splitOn]
  rw [List.splitOn_append_cons_self, List.foldl_append]

/-- A slash in front leads nowhere. -/
@[simp] theorem walk_slash (above : List (List Char)) (q : List Char) :
    walk above ('/' :: q) = walk above q :=
  walk_append above [] q

theorem walk_name {name : List Char} (h : IsName name) : walk above name = name :: above := by
  obtain ⟨hstep, hslash⟩ := h
  simp only [List.mem_cons, List.not_mem_nil, or_false, not_or] at hstep
  rw [walk, components_eq_splitOn, List.splitOn_eq_singleton hslash, List.foldl_cons,
    List.foldl_nil, step, if_neg (not_or.2 ⟨hstep.1, hstep.2.1⟩), if_neg hstep.2.2]

/-- **Along names a walk only goes down.** -/
theorem walk_joinComponents {names : List (List Char)} (h : ∀ name ∈ names, IsName name)
    (above : List (List Char)) : walk above (joinComponents names) = names.reverse ++ above := by
  induction names generalizing above with
  | nil => rfl
  | cons name rest ih =>
    have hname := h name List.mem_cons_self
    cases rest with
    | nil => exact walk_name hname
    | cons next rest =>
      rw [joinComponents, walk_append, walk_name hname,
        ih (fun n hn => h n (List.mem_cons_of_mem _ hn)), List.reverse_cons (a := name),
        List.append_assoc]
      · rfl
      · exact nofun

theorem isName_of_mem_step {component : List Char} (hc : '/' ∉ component)
    (habove : ∀ name ∈ above, IsName name) : ∀ name ∈ step above component, IsName name := by
  intro name hname
  unfold step at hname
  split at hname
  · exact habove name hname
  · next hstay =>
    split at hname
    · exact habove name (List.mem_of_mem_tail hname)
    · next hup =>
      rcases List.mem_cons.1 hname with rfl | hname
      · refine ⟨?_, hc⟩
        simp only [List.mem_cons, List.not_mem_nil, or_false, not_or]
        exact ⟨(not_or.1 hstay).1, (not_or.1 hstay).2, hup⟩
      · exact habove name hname

/-- **A walk comes to names**, if it starts from names. -/
theorem isName_of_mem_walk (habove : ∀ name ∈ above, IsName name) (p : List Char) :
    ∀ name ∈ walk above p, IsName name :=
  List.foldlRecOn (components p) step (motive := fun above => ∀ name ∈ above, IsName name) habove
    fun _ h _ hc => isName_of_mem_step (slash_notMem_of_mem_components hc) h

/-! ## The root -/

theorem isAbsolute_iff : isAbsolute p = true ↔ ∃ rest, p = '/' :: rest := by
  cases p with
  | nil => simp [isAbsolute]
  | cons c rest => simp [isAbsolute]

/-- The root has two slashes after exactly two, else one. -/
theorem root_eq (p : List Char) :
    root p = if leadingSlashes p = 2 then ['/', '/'] else ['/'] := by
  unfold root leadingSlashes
  split
  · simp
  · next rest hthree =>
    have hrest : rest.takeWhile (· == '/') = [] := by
      cases rest with
      | nil => rfl
      | cons c more =>
        have hc : c ≠ '/' := fun h => hthree more (by rw [h])
        rw [List.takeWhile_cons, if_neg (mt beq_iff_eq.1 hc)]
    simp [hrest]
  · next htwo =>
    -- There is at most one slash, or none.
    rcases p with _ | ⟨c, _ | ⟨d, rest⟩⟩
    · rfl
    · by_cases hc : c = '/' <;> simp [hc]
    · by_cases hc : c = '/'
      · have hd : d ≠ '/' := fun hd => htwo rest (by rw [hc, hd])
        simp [hc, hd]
      · simp [hc]

/-- A path that does not start at the root adds no slashes in front. -/
theorem leadingSlashes_append (p : List Char) (hq : isAbsolute q = false) :
    leadingSlashes (p ++ q) = leadingSlashes p := by
  have hnone : q.takeWhile (· == '/') = [] := by
    cases q with
    | nil => rfl
    | cons c rest =>
      have hc : ¬ (c == '/') = true := by simpa [isAbsolute] using hq
      rw [List.takeWhile_cons, if_neg hc]
  unfold leadingSlashes
  rw [List.takeWhile_append, hnone, List.append_nil]
  split
  · next hall => exact hall.symm
  · rfl

/-- Nothing adds slashes in front of another character. -/
theorem leadingSlashes_append_of_mem {c : Char} (hc : c ∈ p) (hne : c ≠ '/') (q : List Char) :
    leadingSlashes (p ++ q) = leadingSlashes p := by
  unfold leadingSlashes
  rw [List.takeWhile_append]
  split
  · next hall =>
    have heq := (List.takeWhile_prefix (· == '/') (l := p)).eq_of_length hall
    have hslash := List.all_eq_true.1 List.all_takeWhile c (heq ▸ hc)
    exact absurd (beq_iff_eq.1 hslash) hne
  · rfl

/-! ## The normal form -/

theorem IsName.ne_nil {name : List Char} (h : IsName name) : name ≠ [] := fun heq =>
  h.1 (heq ▸ List.mem_cons_self)

/-- Names begin with no slash. -/
theorem isAbsolute_joinComponents {names : List (List Char)} (h : ∀ name ∈ names, IsName name) :
    isAbsolute (joinComponents names) = false := by
  cases names with
  | nil => rfl
  | cons name rest =>
    have hname := h name List.mem_cons_self
    obtain ⟨c, more, rfl⟩ := List.exists_cons_of_ne_nil hname.ne_nil
    have hc : c ≠ '/' := fun heq => hname.2 (heq ▸ List.mem_cons_self)
    cases rest <;> simpa [joinComponents, isAbsolute] using hc

/-- Names end with no slash. -/
theorem getLast?_joinComponents {names : List (List Char)} (h : ∀ name ∈ names, IsName name)
    (hne : names ≠ []) : ∃ c, (joinComponents names).getLast? = some c ∧ c ≠ '/' := by
  induction names with
  | nil => exact absurd rfl hne
  | cons name rest ih =>
    have hname := h name List.mem_cons_self
    cases rest with
    | nil =>
      refine ⟨name.getLast hname.ne_nil, List.getLast?_eq_some_getLast _, fun heq => ?_⟩
      exact hname.2 (heq ▸ List.getLast_mem hname.ne_nil)
    | cons next rest =>
      obtain ⟨c, hlast, hc⟩ :=
        ih (fun n hn => h n (List.mem_cons_of_mem _ hn)) (List.cons_ne_nil _ _)
      refine ⟨c, ?_, hc⟩
      rw [joinComponents, List.getLast?_append, List.getLast?_cons, hlast]
      · rfl
      · exact nofun

variable {slashes : List Char} {names : List (List Char)}

/-- **The slashes of a root and names make a path in normal form.** -/
theorem isNormal_append (hslashes : slashes = ['/'] ∨ slashes = ['/', '/'])
    (h : ∀ name ∈ names, IsName name) : IsNormal slashes (slashes ++ joinComponents names) := by
  constructor
  case isAbsolute_eq => rcases hslashes with rfl | rfl <;> rfl
  case exists_names => exact ⟨names, h, by rw [joinComponents_eq_intercalate]⟩
  case eq_root =>
    intro hlast
    rcases Decidable.em (names = []) with rfl | hne
    · exact List.append_nil slashes
    · obtain ⟨c, hc, hslash⟩ := getLast?_joinComponents h hne
      rw [List.getLast?_append, hc] at hlast
      exact absurd (Option.some.inj hlast) hslash

theorem root_cases (p : List Char) : root p = ['/'] ∨ root p = ['/', '/'] := by
  rw [root_eq]
  split
  · exact Or.inr rfl
  · exact Or.inl rfl

/-- The names that a path leads to. -/
theorem isName_of_mem_normalComponents (p : List Char) :
    ∀ name ∈ normalComponents p, IsName name := fun name hname =>
  isName_of_mem_walk (List.forall_mem_nil _) p name (List.mem_reverse.1 hname)

/-- **What comes of a path is in normal form.** -/
theorem isNormal_normal (p : List Char) : IsNormal (root p) (normal p) :=
  isNormal_append (root_cases p) (isName_of_mem_normalComponents p)

/-- A root and names lead to the names. -/
theorem walk_normal (p : List Char) : walk [] (normal p) = walk [] p := by
  have hnames := walk_joinComponents (isName_of_mem_normalComponents p) []
  rw [List.append_nil, normalComponents_eq, List.reverse_reverse] at hnames
  unfold normal
  rcases root_cases p with h | h
  · rw [h]
    exact (walk_slash [] _).trans hnames
  · rw [h]
    exact (walk_slash [] _).trans ((walk_slash [] _).trans hnames)

theorem root_normal (p : List Char) : root (normal p) = root p := by
  have hrest := isAbsolute_joinComponents (isName_of_mem_normalComponents p)
  rw [normal, root_eq, leadingSlashes_append _ hrest, ← root_eq]
  rcases root_cases p with h | h <;> rw [h] <;> rfl

/-- **A normal form is a matter of the root and of the walk.** -/
theorem normal_eq_of_walk_eq (hroot : root p = root q) (hwalk : walk [] p = walk [] q) :
    normal p = normal q := by
  unfold normal
  rw [hroot, normalComponents_eq, normalComponents_eq, hwalk]

theorem normal_normal (p : List Char) : normal (normal p) = normal p :=
  normal_eq_of_walk_eq (root_normal p) (walk_normal p)

/-! ## Following a path from a directory -/

theorem join_of_isAbsolute (hv : isAbsolute v = true) (d : List Char) : join d v = v := by
  rw [join, hv, Bool.true_or, if_pos rfl]

theorem ne_nil_of_isAbsolute (hd : isAbsolute d = true) : d ≠ [] := by
  rintro rfl
  cases hd

/-- From a directory a path goes on after a slash, of which it is no matter whether the
directory ends in it. -/
theorem join_cases (hd : isAbsolute d = true) (hv : isAbsolute v = false) :
    (∃ before, d = before ++ ['/'] ∧ join d v = d ++ v)
      ∨ ((∃ c ∈ d, c ≠ '/') ∧ join d v = d ++ '/' :: v) := by
  have hne := ne_nil_of_isAbsolute hd
  have hjoin : join d v = if d.getLast? = some '/' then d ++ v else d ++ '/' :: v := by
    rw [join, hv, Bool.false_or, if_neg (mt List.isEmpty_iff.1 hne)]
  rw [hjoin]
  by_cases hlast : d.getLast? = some '/'
  · left
    obtain ⟨before, hbefore⟩ := List.getLast?_eq_some_iff.1 hlast
    exact ⟨before, hbefore, if_pos hlast⟩
  · right
    refine ⟨⟨d.getLast hne, List.getLast_mem hne, fun heq => hlast ?_⟩, if_neg hlast⟩
    rw [List.getLast?_eq_some_getLast hne, heq]

theorem isAbsolute_append (hp : isAbsolute p = true) (q : List Char) :
    isAbsolute (p ++ q) = true := by
  obtain ⟨rest, rfl⟩ := isAbsolute_iff.1 hp
  rfl

theorem isAbsolute_join (hd : isAbsolute d = true) (v : List Char) :
    isAbsolute (join d v) = true := by
  cases hv : isAbsolute v with
  | true => rwa [join_of_isAbsolute hv]
  | false =>
    rcases join_cases hd hv with ⟨_, -, h⟩ | ⟨-, h⟩ <;> rw [h] <;> exact isAbsolute_append hd _

/-- **The walk along a path that is followed from a directory** goes on where the directory is. -/
theorem walk_join (hd : isAbsolute d = true) (hv : isAbsolute v = false) :
    walk [] (join d v) = walk (walk [] d) v := by
  rcases join_cases hd hv with ⟨before, rfl, h⟩ | ⟨-, h⟩
  · rw [h, List.append_assoc]
    show walk [] (before ++ '/' :: v) = _
    rw [walk_append, walk_append [] before [], walk_nil]
  · rw [h, walk_append]

/-- The root is that of the directory. -/
theorem root_join (hd : isAbsolute d = true) (hv : isAbsolute v = false) :
    root (join d v) = root d := by
  rw [root_eq, root_eq d]
  rcases join_cases hd hv with ⟨-, -, h⟩ | ⟨⟨c, hc, hne⟩, h⟩
  · rw [h, leadingSlashes_append d hv]
  · rw [h, leadingSlashes_append_of_mem hc hne]

/-- From an absolute directory the working directory does not matter. -/
theorem resolveCharacters_eq (hd : isAbsolute d = true) (w v : List Char) :
    resolveCharacters w d v = normal (join d v) := by
  rw [resolveCharacters, join_of_isAbsolute (isAbsolute_join hd v)]

/-- A path in normal form leads to itself. -/
theorem resolveCharacters_normal (w d p : List Char) :
    resolveCharacters w d (normal p) = normal p := by
  have habs := (isNormal_normal p).isAbsolute_eq
  rw [resolveCharacters, join_of_isAbsolute habs, join_of_isAbsolute habs, normal_normal]

/-- **A path can be followed in two steps.** -/
theorem resolveCharacters_append (hd : isAbsolute d = true) (ha : isAbsolute a = false)
    (hne : a ≠ []) (hb : isAbsolute b = false) :
    resolveCharacters w (resolveCharacters w d a) b
      = resolveCharacters w d (a ++ '/' :: b) := by
  obtain ⟨c, rest, rfl⟩ := List.exists_cons_of_ne_nil hne
  have hc : c ≠ '/' := by simpa [isAbsolute] using ha
  -- In one step the slash stands behind all of the first path.
  have hjoin : join d (c :: rest ++ '/' :: b) = join d (c :: rest) ++ '/' :: b := by
    unfold join
    rw [ha, show isAbsolute (c :: rest ++ '/' :: b) = false from ha]
    split
    · rfl
    · split <;> simp
  have hmem : c ∈ join d (c :: rest) := by
    rcases join_cases hd ha with ⟨-, -, h⟩ | ⟨-, h⟩ <;> rw [h] <;> simp
  have hfirst := (isNormal_normal (join d (c :: rest))).isAbsolute_eq
  rw [resolveCharacters_eq hd, resolveCharacters_eq hfirst, resolveCharacters_eq hd, hjoin]
  apply normal_eq_of_walk_eq
  · rw [root_join hfirst hb, root_normal, root_eq (_ ++ _), leadingSlashes_append_of_mem hmem hc,
      ← root_eq]
  · rw [walk_join hfirst hb, walk_normal, walk_append]

/-! ## Texts -/

theorem toList_resolve (working directory path : String) :
    (resolve working directory path).toList
      = resolveCharacters working.toList directory.toList path.toList :=
  String.toList_ofList

/-- **A link leads to a path in normal form**, wherever the program works, which leads to
itself from everywhere, and to which a link in two parts leads part by part. The root has the
slashes of the path if that is absolute, and else those of the directory: two of them if there
are exactly two, and else one. -/
theorem resolve_normalizes {directory : String} (hd : isAbsolute directory.toList = true)
    (working path : String) :
    IsNormal
        (if leadingSlashes (if isAbsolute path.toList then path else directory).toList = 2
          then ['/', '/'] else ['/'])
        (resolve working directory path).toList
      ∧ (∀ elsewhere other, resolve elsewhere other (resolve working directory path)
          = resolve working directory path)
      ∧ (isAbsolute path.toList = false → path ≠ "" → ∀ further : String,
          isAbsolute further.toList = false →
            resolve working (resolve working directory path) further
              = resolve working directory (path ++ "/" ++ further)) := by
  refine ⟨?_, fun elsewhere other => ?_, fun hpath hne further hfurther => ?_⟩
  · rw [← root_eq, toList_resolve, resolveCharacters_eq hd]
    have hnormal := isNormal_normal (join directory.toList path.toList)
    cases hpath : isAbsolute path.toList with
    | true =>
      rw [join_of_isAbsolute hpath] at hnormal ⊢
      exact hnormal
    | false => rwa [if_neg Bool.false_ne_true, ← root_join hd hpath]
  · rw [← String.toList_inj, toList_resolve, toList_resolve, resolveCharacters_eq hd,
      resolveCharacters_normal]
  · rw [← String.toList_inj, toList_resolve, toList_resolve, toList_resolve,
      String.toList_append, String.toList_append, List.append_assoc]
    exact resolveCharacters_append hd hpath (mt String.toList_eq_nil_iff.1 hne) hfurther

/-- A directory of which exactly two slashes are kept, and a link out of it that does not stop at
the root. -/
theorem resolve_sharedImages :
    isAbsolute "//site/./posts/".toList = true
      ∧ IsNormal ['/', '/'] "//images".toList
      ∧ resolve "/home" "elsewhere" "//images" = "//images"
      ∧ isAbsolute "../..//../images/".toList = false ∧ isAbsolute "../logo.png".toList = false
      ∧ resolve "/home" "//images" "../logo.png"
        = resolve "/home" "//site/./posts/" "../..//../images//../logo.png" := by
  have hd : isAbsolute "//site/./posts/".toList = true := by decide
  have ha : isAbsolute "../..//../images/".toList = false := by decide
  have hb : isAbsolute "../logo.png".toList = false := by decide
  have heq : resolve "/home" "//site/./posts/" "../..//../images/" = "//images" := by decide
  obtain ⟨hnormal, hself, hsteps⟩ := resolve_normalizes hd "/home" "../..//../images/"
  rw [heq] at hnormal hself
  have hstep := hsteps ha (by decide) "../logo.png" hb
  rw [heq] at hstep
  exact ⟨hd, hnormal, hself "/home" "elsewhere", ha, hb, hstep⟩

end ContentGraph.Path
