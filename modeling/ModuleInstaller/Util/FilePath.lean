import Mathlib.Data.List.Infix
/-
**Lexical paths: Go's `path` package, and `CleanFilePathJoin` (`pkg/diff/typeconverter.go`).**

`path.Clean` reads a path as the names between its slashes and keeps a stack of them. An empty
name or `.` is dropped. `..` removes the name before it; at the root of a rooted path it is
dropped, and in front of a relative path it is kept. Every other name is pushed. The text of the
stack is the cleaned path, or `.` for an empty relative one. `path.Join` cleans the elements from
the first non-empty one on, joined by slashes. `path.Split` cuts after the last slash.
`filepath.Join` and `filepath.Clean` are the same functions where the separator is `/`.

`CleanFilePathJoin` first reads backslashes as slashes. It refuses a destination that holds a
`:`, has a `..` name, or starts with a slash, and joins any other cleaned destination to the root.

* `Kept.step` — one step of `path.Clean` keeps the shape of its stack: plain names over the `..`s
  it could not remove;
* `cleanNames_pathText`, `cleanNames_pathClean` — reading the text of cleaned names gives them
  back, so `path.Clean` is idempotent;
* **`cleanFilePathJoin_within`** — every path `CleanFilePathJoin` returns is rooted as the cleaned
  root is, and its names begin with the cleaned root's names;
* `cleanNames_pathJoin_of_ne_dotdot`, `cleanNames_pathJoin_dotdot` — joining a name other than `..`
  stays under the path, and `..` names the path's parent.
-/

namespace ModuleInstaller.Util

/-! ## Part 1 — the names between the slashes -/

/-- The parts of a text between the occurrences of a separator. -/
def partsOf (text : String) (separator : Char) : List String :=
  (text.toList.splitOn separator).map String.mk

/-- The names joined by slashes. -/
def slashJoin (names : List String) : String :=
  String.mk (['/'].intercalate (names.map String.toList))

/-- Splitting at a separator between two lists splits each of them. -/
theorem splitOnP_append_cons {α : Type} (p : α → Bool) {sep : α} (separates : p sep = true) :
    ∀ (front back : List α), (front ++ sep :: back).splitOnP p = front.splitOnP p ++ back.splitOnP p
  | [], back => by simp [List.splitOnP_cons, separates]
  | x :: front, back => by
    rw [List.cons_append, List.splitOnP_cons, List.splitOnP_cons,
      splitOnP_append_cons p separates front back]
    split
    · rfl
    · obtain ⟨head, tail, split⟩ := List.exists_cons_of_ne_nil (List.splitOnP_ne_nil p front)
      rw [split]
      rfl

/-- No part of a split holds a separator. -/
theorem not_mem_of_mem_splitOnP {α : Type} (p : α → Bool) :
    ∀ {xs part : List α}, part ∈ xs.splitOnP p → ∀ x ∈ part, p x = false
  | [], part, member => by simp_all
  | y :: xs, part, member => by
    rw [List.splitOnP_cons] at member
    split at member
    · rcases List.mem_cons.mp member with rfl | later
      · simp
      · exact not_mem_of_mem_splitOnP p later
    · obtain ⟨head, tail, split⟩ := List.exists_cons_of_ne_nil (List.splitOnP_ne_nil p xs)
      rw [split] at member
      rcases List.mem_cons.mp member with rfl | later
      · intro x inPart
        rcases List.mem_cons.mp inPart with rfl | inHead
        · simpa using ‹¬p x = true›
        · exact not_mem_of_mem_splitOnP p (split ▸ List.mem_cons_self _ _) x inHead
      · exact not_mem_of_mem_splitOnP p (split ▸ List.mem_cons_of_mem _ later)

/-- The names of two texts joined by a slash are the names of each. -/
theorem partsOf_append_slash (front back : String) :
    partsOf (front ++ "/" ++ back) '/' = partsOf front '/' ++ partsOf back '/' := by
  have chars : (front ++ "/" ++ back).toList = front.toList ++ '/' :: back.toList := by
    simp [String.toList, String.append]
  rw [partsOf, chars, List.splitOn, splitOnP_append_cons (· == '/') (beq_self_eq_true '/'),
    List.map_append]
  rfl

/-- No name holds the separator. -/
theorem not_mem_of_mem_partsOf {text part : String} {separator : Char}
    (member : part ∈ partsOf text separator) : separator ∉ part.toList := by
  obtain ⟨chars, inSplit, rfl⟩ := List.mem_map.mp member
  intro inPart
  simpa using not_mem_of_mem_splitOnP _ inSplit separator inPart

/-- Splitting names joined by slashes gives them back. -/
theorem partsOf_slashJoin {names : List String} (nonempty : names ≠ [])
    (plain : ∀ name ∈ names, '/' ∉ name.toList) : partsOf (slashJoin names) '/' = names := by
  have split : (['/'].intercalate (names.map String.toList)).splitOn '/' = names.map String.toList :=
    List.splitOn_intercalate _ '/' (by simpa using plain) (by simpa using nonempty)
  simp only [partsOf, slashJoin, String.toList, split, List.map_map]
  exact (List.map_congr_left fun _ _ => rfl).trans (List.map_id _)

/-! ## Part 2 — `path.Clean`, `path.Join` and `path.Split` -/

/-- `path.IsAbs`: the path starts with a slash. -/
def isAbs (path : String) : Bool := path.toList.head? == some '/'

/-- One name of the loop of `path.Clean`, on the names kept so far, last first: an empty name or
`.` is dropped; `..` removes the name before it, is dropped at the root of a rooted path, and is
kept in front of a relative one; any other name is kept. -/
def cleanStep (rooted : Bool) (kept : List String) (name : String) : List String :=
  if name = "" ∨ name = "." then kept
  else if name = ".." then
    match kept with
    | top :: rest => if top = ".." then (if rooted then kept else ".." :: kept) else rest
    | [] => if rooted then [] else [".."]
  else name :: kept

/-- The names `path.Clean` keeps, in order. -/
def cleanNames (path : String) : List String :=
  ((partsOf path '/').foldl (cleanStep (isAbs path)) []).reverse

/-- The text `path.Clean` writes for its names: a leading slash for a rooted path, and `.` for an
empty relative one. -/
def pathText (rooted : Bool) (names : List String) : String :=
  if rooted then "/" ++ slashJoin names
  else if names = [] then "." else slashJoin names

/-- `path.Clean`. -/
def pathClean (path : String) : String := pathText (isAbs path) (cleanNames path)

/-- `path.Join`, and `filepath.Join` with `/` as the separator: the elements from the first
non-empty one on, joined by slashes and cleaned; `""` when every element is empty. -/
def pathJoin (elem : List String) : String :=
  match elem.dropWhile (· == "") with
  | [] => ""
  | rest => pathClean (slashJoin rest)

/-- `path.Split`: the path up to and including its last slash, and the rest. -/
def pathSplit (path : String) : String × String :=
  (String.mk (path.toList.reverse.dropWhile (· != '/')).reverse,
   String.mk (path.toList.reverse.takeWhile (· != '/')).reverse)

/-! ## Part 3 — what `path.Clean` keeps -/

/-- A name `path.Clean` keeps as it is: not empty, not `.` or `..`, and without a slash. -/
def Plain (name : String) : Prop := name ≠ "" ∧ name ≠ "." ∧ name ≠ ".." ∧ '/' ∉ name.toList

/-- The names `path.Clean` has kept, last first: plain names over the `..`s it could not remove,
and no `..` under a root. -/
def Kept (rooted : Bool) (kept : List String) : Prop :=
  ∃ real ups, kept = real ++ List.replicate ups ".." ∧ (∀ name ∈ real, Plain name) ∧
    (rooted = true → ups = 0)

theorem Kept.nil (rooted : Bool) : Kept rooted [] := ⟨[], 0, rfl, by simp, fun _ => rfl⟩

/-- **One step keeps the shape of what is kept.** -/
theorem Kept.step {rooted : Bool} {kept : List String} (form : Kept rooted kept) {name : String}
    (noSlash : '/' ∉ name.toList) : Kept rooted (cleanStep rooted kept name) := by
  obtain ⟨real, ups, rfl, plain, rootedUps⟩ := form
  unfold Util.cleanStep
  by_cases skipped : name = "" ∨ name = "."
  · rw [if_pos skipped]
    exact ⟨real, ups, rfl, plain, rootedUps⟩
  rw [if_neg skipped]
  by_cases up : name = ".."
  · rw [if_pos up]
    cases real with
    | cons top real =>
      have plainTop := plain top (List.mem_cons_self _ _)
      simp only [List.cons_append, if_neg plainTop.2.2.1]
      exact ⟨real, ups, rfl, fun other member => plain other (List.mem_cons_of_mem _ member),
        rootedUps⟩
    | nil =>
      cases ups with
      | zero =>
        cases rooted with
        | false => exact ⟨[], 1, rfl, by simp, by simp⟩
        | true => exact Kept.nil true
      | succ ups =>
        cases rooted with
        | false => exact ⟨[], ups + 2, rfl, by simp, by simp⟩
        | true => exact absurd (rootedUps rfl) (Nat.succ_ne_zero ups)
  · rw [if_neg up]
    refine ⟨name :: real, ups, rfl, fun other member => ?_, rootedUps⟩
    rcases List.mem_cons.mp member with rfl | later
    · exact ⟨fun empty => skipped (.inl empty), fun dot => skipped (.inr dot), up, noSlash⟩
    · exact plain other later

/-- **A whole run of `path.Clean` keeps the shape of its stack.** -/
theorem Kept.fold {rooted : Bool} :
    ∀ {names : List String} {kept : List String}, Kept rooted kept →
      (∀ name ∈ names, '/' ∉ name.toList) → Kept rooted (names.foldl (cleanStep rooted) kept)
  | [], _, form, _ => form
  | name :: rest, _, form, noSlash => by
    rw [List.foldl_cons]
    exact Kept.fold (form.step (noSlash name (List.mem_cons_self _ _)))
      fun other member => noSlash other (List.mem_cons_of_mem _ member)

/-- What `path.Clean` keeps of a path. -/
theorem kept_cleanNames (path : String) :
    ∃ kept, Kept (isAbs path) kept ∧ cleanNames path = kept.reverse :=
  ⟨(partsOf path '/').foldl (cleanStep (isAbs path)) [],
    Kept.fold (Kept.nil _) fun _ member => not_mem_of_mem_partsOf member, rfl⟩

/-- Plain names are pushed one after the other. -/
theorem foldl_cleanStep_plain {rooted : Bool} :
    ∀ {names : List String} (kept : List String), (∀ name ∈ names, Plain name) →
      names.foldl (cleanStep rooted) kept = names.reverse ++ kept
  | [], _, _ => rfl
  | name :: rest, kept, plain => by
    have plainName := plain name (List.mem_cons_self _ _)
    have pushed : cleanStep rooted kept name = name :: kept := by
      simp [Util.cleanStep, plainName.1, plainName.2.1, plainName.2.2.1]
    rw [List.foldl_cons, pushed, foldl_cleanStep_plain (name :: kept)
      fun other member => plain other (List.mem_cons_of_mem _ member)]
    simp

/-- The `..`s in front of a relative path are all kept. -/
theorem foldl_cleanStep_ups (ups : Nat) :
    ∀ kept, (List.replicate ups "..").foldl (cleanStep false) (List.replicate kept "..") =
      List.replicate (kept + ups) ".." := by
  induction ups with
  | zero => intro kept; rfl
  | succ ups ih =>
    intro kept
    have pushed : cleanStep false (List.replicate kept "..") ".." = List.replicate (kept + 1) ".." := by
      cases kept <;> simp [Util.cleanStep, List.replicate_succ]
    rw [List.replicate_succ, List.foldl_cons, pushed, ih]
    congr 1
    omega

/-! ## Part 4 — reading cleaned names back -/

@[simp] theorem slashJoin_nil : slashJoin [] = "" := rfl

@[simp] theorem slashJoin_singleton (name : String) : slashJoin [name] = name := by
  simp [slashJoin, List.intercalate]

theorem slashJoin_cons_cons (first second : String) (rest : List String) :
    slashJoin (first :: second :: rest) = first ++ "/" ++ slashJoin (second :: rest) := by
  simp only [slashJoin, List.map_cons]
  simp [List.intercalate, List.intersperse, String.ext_iff, String.toList, String.append]

theorem toList_ne_nil {text : String} (nonempty : text ≠ "") : text.toList ≠ [] :=
  fun empty => nonempty (String.ext (by simpa [String.toList] using empty))

/-- Whether a path is rooted is read off its first character. -/
theorem isAbs_append {front : String} (nonempty : front ≠ "") (back : String) :
    isAbs (front ++ back) = isAbs front := by
  obtain ⟨c, cs, chars⟩ := List.exists_cons_of_ne_nil (toList_ne_nil nonempty)
  simp only [isAbs, String.toList] at chars ⊢
  show ((front.data ++ back.data).head? == some '/') = _
  rw [chars]
  rfl

/-- A path joined from names, the first of them non-empty and without a slash, is relative. -/
theorem isAbs_slashJoin {name : String} (nonempty : name ≠ "") (noSlash : '/' ∉ name.toList)
    (rest : List String) : isAbs (slashJoin (name :: rest)) = false := by
  have first : isAbs name = false := by
    obtain ⟨c, cs, chars⟩ := List.exists_cons_of_ne_nil (toList_ne_nil nonempty)
    rw [chars] at noSlash
    simp only [isAbs, chars, List.head?_cons, beq_eq_false_iff_ne, ne_eq, Option.some.injEq]
    exact fun same => noSlash (same ▸ List.mem_cons_self _ _)
  cases rest with
  | nil => simpa using first
  | cons second rest =>
    rw [slashJoin_cons_cons, String.append_assoc, isAbs_append nonempty, first]

/-- Pushing the parts of joined plain names. -/
theorem foldl_partsOf_slashJoin {rooted : Bool} {names : List String}
    (plain : ∀ name ∈ names, Plain name) (kept : List String) :
    (partsOf (slashJoin names) '/').foldl (cleanStep rooted) kept = names.reverse ++ kept := by
  cases names with
  | nil => simp [partsOf, Util.cleanStep]
  | cons name rest =>
    rw [partsOf_slashJoin (List.cons_ne_nil _ _) fun other member => (plain other member).2.2.2]
    exact foldl_cleanStep_plain kept plain

/-- **Reading the text of kept names gives them back**, and the text is rooted as they were. -/
theorem cleanNames_pathText {rooted : Bool} {kept : List String} (form : Kept rooted kept) :
    isAbs (pathText rooted kept.reverse) = rooted ∧
      cleanNames (pathText rooted kept.reverse) = kept.reverse := by
  obtain ⟨real, ups, rfl, plain, rootedUps⟩ := form
  have plainReverse : ∀ name ∈ real.reverse, Plain name := fun name member =>
    plain name (List.mem_reverse.mp member)
  cases rooted with
  | true =>
    obtain rfl := rootedUps rfl
    have parts : partsOf (pathText true (real ++ List.replicate 0 "..").reverse) '/' =
        "" :: partsOf (slashJoin real.reverse) '/' := by
      simp only [pathText, if_true, List.replicate_zero, List.append_nil]
      exact partsOf_append_slash "" _
    refine ⟨rfl, ?_⟩
    simp only [cleanNames, parts, List.foldl_cons]
    rw [show isAbs (pathText true (real ++ List.replicate 0 "..").reverse) = true from rfl]
    simp [Util.cleanStep, foldl_partsOf_slashJoin plainReverse]
  | false =>
    by_cases empty : real ++ List.replicate ups ".." = []
    · rw [empty]
      exact ⟨rfl, rfl⟩
    have nonempty : List.replicate ups ".." ++ real.reverse ≠ [] := fun none =>
      empty (by simp_all [List.append_eq_nil])
    have text : pathText false (real ++ List.replicate ups "..").reverse =
        slashJoin (List.replicate ups ".." ++ real.reverse) := by
      rw [List.reverse_append, List.reverse_replicate]
      simp only [pathText, Bool.false_eq_true, if_false, if_neg nonempty]
    obtain ⟨first, rest, split⟩ := List.exists_cons_of_ne_nil nonempty
    have firstName : first ≠ "" ∧ '/' ∉ first.toList := by
      cases ups with
      | zero =>
        have plainFirst := plainReverse first (by simp_all)
        exact ⟨plainFirst.1, plainFirst.2.2.2⟩
      | succ ups =>
        simp only [List.replicate_succ, List.cons_append, List.cons.injEq] at split
        rw [← split.1]
        decide
    have relative : isAbs (slashJoin (List.replicate ups ".." ++ real.reverse)) = false := by
      rw [split]
      exact isAbs_slashJoin firstName.1 firstName.2 rest
    have noSlash : ∀ name ∈ List.replicate ups ".." ++ real.reverse, '/' ∉ name.toList := by
      intro name member
      rcases List.mem_append.mp member with up | realName
      · rw [List.eq_of_mem_replicate up]
        decide
      · exact (plainReverse name realName).2.2.2
    rw [text]
    refine ⟨relative, ?_⟩
    have ups' := foldl_cleanStep_ups ups 0
    simp only [List.replicate_zero, Nat.zero_add] at ups'
    simp only [cleanNames, relative, partsOf_slashJoin nonempty noSlash, List.foldl_append, ups',
      foldl_cleanStep_plain _ plainReverse]
    simp

/-- `path.Clean` keeps whether a path is rooted. -/
@[simp] theorem isAbs_pathClean (path : String) : isAbs (pathClean path) = isAbs path := by
  obtain ⟨kept, form, names⟩ := kept_cleanNames path
  rw [pathClean, names]
  exact (cleanNames_pathText form).1

/-- **`path.Clean` is idempotent**: the names of a cleaned path are the path's names. -/
@[simp] theorem cleanNames_pathClean (path : String) : cleanNames (pathClean path) = cleanNames path := by
  obtain ⟨kept, form, names⟩ := kept_cleanNames path
  rw [pathClean, names]
  exact (cleanNames_pathText form).2

/-- A cleaned path is never empty. -/
theorem pathClean_ne_empty (path : String) : pathClean path ≠ "" := by
  intro empty
  have names : cleanNames path = [] := by rw [← cleanNames_pathClean, empty]; rfl
  have relative : isAbs path = false := by rw [← isAbs_pathClean, empty]; rfl
  simp [pathClean, names, relative, pathText] at empty

/-- Names without `..` are cleaned by dropping the empty ones and `.`. -/
theorem foldl_cleanStep_of_ne_dotdot {rooted : Bool} :
    ∀ {names : List String} (kept : List String), (∀ name ∈ names, name ≠ "..") →
      names.foldl (cleanStep rooted) kept =
        (names.filter fun name => name != "" && name != ".").reverse ++ kept
  | [], _, _ => rfl
  | name :: rest, kept, noUp => by
    have up := noUp name (List.mem_cons_self _ _)
    rw [List.foldl_cons, foldl_cleanStep_of_ne_dotdot _
      fun other member => noUp other (List.mem_cons_of_mem _ member)]
    by_cases skipped : name = "" ∨ name = "."
    · rcases skipped with rfl | rfl <;> simp [Util.cleanStep]
    · simp only [not_or] at skipped
      simp [Util.cleanStep, skipped.1, skipped.2, up, List.filter_cons]

/-- The names of a path with no `..` name are plain. -/
theorem plain_cleanNames {path : String} (noUp : ∀ part ∈ partsOf path '/', part ≠ "..") :
    ∀ name ∈ cleanNames path, Plain name := by
  intro name member
  rw [cleanNames, foldl_cleanStep_of_ne_dotdot [] noUp] at member
  simp only [List.append_nil, List.reverse_reverse, List.mem_filter, Bool.and_eq_true,
    bne_iff_ne, ne_eq] at member
  exact ⟨member.2.1, member.2.2, noUp name member.1, not_mem_of_mem_partsOf member.1⟩

/-- Pushing the parts of the text of relative plain names. -/
theorem foldl_partsOf_pathText {rooted : Bool} {names : List String}
    (plain : ∀ name ∈ names, Plain name) (kept : List String) :
    (partsOf (pathText false names) '/').foldl (cleanStep rooted) kept = names.reverse ++ kept := by
  by_cases empty : names = []
  · subst empty
    show (partsOf "." '/').foldl (cleanStep rooted) kept = kept
    rfl
  · simp only [pathText, Bool.false_eq_true, if_false, if_neg empty]
    exact foldl_partsOf_slashJoin plain kept

/-! ## Part 5 — `CleanFilePathJoin` -/

/-- `strings.ReplaceAll(dest, "\\", "/")`. -/
def replaceBackslashes (dest : String) : String :=
  String.mk (dest.toList.map fun c => if c = '\\' then '/' else c)

/-- `CleanFilePathJoin`: a destination holding a `:`, or a `..` name once backslashes are read as
slashes, or a leading slash is refused; any other is cleaned and joined to the root.
`filepath.ToSlash` changes nothing where the separator is `/`. -/
def cleanFilePathJoin (root dest : String) : Except String String :=
  if dest.toList.contains ':' then .error "path contains \x27:\x27, which is illegal"
  else
    let dest := replaceBackslashes dest
    if (partsOf dest '/').any (· == "..") then .error "path contains \x27..\x27, which is illegal"
    else if isAbs dest then .error "path is absolute, which is illegal"
    else .ok (pathJoin [root, pathClean dest])

/-- **What `CleanFilePathJoin` returns**: a path rooted as the cleaned root, whose names are the
cleaned root's names followed by plain ones. -/
theorem cleanFilePathJoin_eq_ok {root dest path : String}
    (joined : cleanFilePathJoin root dest = .ok path) :
    ∃ names, (∀ name ∈ names, Plain name) ∧ isAbs path = isAbs (pathClean root) ∧
      cleanNames path = cleanNames (pathClean root) ++ names := by
  unfold cleanFilePathJoin at joined
  dsimp only at joined
  split_ifs at joined with colon up absolute
  cases joined
  have noUp : ∀ part ∈ partsOf (replaceBackslashes dest) '/', part ≠ ".." := by
    simpa only [List.any_eq_true, beq_iff_eq, not_exists, not_and] using up
  have relative : isAbs (replaceBackslashes dest) = false := by simpa using absolute
  have cleaned : pathClean (replaceBackslashes dest) =
      pathText false (cleanNames (replaceBackslashes dest)) := by
    rw [pathClean, relative]
  refine ⟨cleanNames (replaceBackslashes dest), plain_cleanNames noUp, ?_⟩
  by_cases emptyRoot : root = ""
  · subst emptyRoot
    have joinedPath : pathJoin ["", pathClean (replaceBackslashes dest)] =
        pathClean (pathClean (replaceBackslashes dest)) := by
      simp [pathJoin, pathClean_ne_empty]
    rw [joinedPath, isAbs_pathClean, isAbs_pathClean, cleanNames_pathClean, cleanNames_pathClean,
      relative]
    exact ⟨rfl, rfl⟩
  · have joinedPath : pathJoin [root, pathClean (replaceBackslashes dest)] =
        pathClean (root ++ "/" ++ pathClean (replaceBackslashes dest)) := by
      simp [pathJoin, emptyRoot, slashJoin_cons_cons]
    have rooted : isAbs (root ++ "/" ++ pathClean (replaceBackslashes dest)) = isAbs root := by
      rw [String.append_assoc, isAbs_append emptyRoot]
    rw [joinedPath, isAbs_pathClean, cleanNames_pathClean, isAbs_pathClean, cleanNames_pathClean,
      rooted]
    refine ⟨rfl, ?_⟩
    rw [cleanNames, rooted, partsOf_append_slash, List.foldl_append, cleaned,
      foldl_partsOf_pathText (plain_cleanNames noUp), List.reverse_append, List.reverse_reverse]
    rfl

/-- `CleanFilePathJoin` never returns the empty path. -/
theorem cleanFilePathJoin_ne_empty {root dest path : String}
    (joined : cleanFilePathJoin root dest = .ok path) : path ≠ "" := by
  unfold cleanFilePathJoin at joined
  dsimp only at joined
  split_ifs at joined
  cases joined
  by_cases emptyRoot : root = "" <;> simp [pathJoin, emptyRoot, pathClean_ne_empty]

/-- **Every path `CleanFilePathJoin` returns lies at or under the cleaned root**: it is rooted as
the cleaned root is, and its names begin with the cleaned root's names. -/
theorem cleanFilePathJoin_within (root dest path : String)
    (joined : cleanFilePathJoin root dest = .ok path) :
    isAbs path = isAbs (pathClean root) ∧ cleanNames (pathClean root) <+: cleanNames path := by
  obtain ⟨names, -, rooted, extended⟩ := cleanFilePathJoin_eq_ok joined
  exact ⟨rooted, extended ▸ List.prefix_append _ _⟩

theorem chartTemplates_within :
    cleanFilePathJoin "/tmp/helm-chart-sha256-01" "templates\\crds/" =
        .ok "/tmp/helm-chart-sha256-01/templates/crds" ∧
      isAbs "/tmp/helm-chart-sha256-01/templates/crds" = isAbs (pathClean "/tmp/helm-chart-sha256-01") ∧
      cleanNames (pathClean "/tmp/helm-chart-sha256-01") <+:
        cleanNames "/tmp/helm-chart-sha256-01/templates/crds" :=
  ⟨rfl, cleanFilePathJoin_within "/tmp/helm-chart-sha256-01" "templates\\crds/"
    "/tmp/helm-chart-sha256-01/templates/crds" rfl⟩

/-! ## Part 6 — one more name -/

/-- The file part `path.Split` gives holds no slash. -/
theorem not_mem_pathSplit_snd (path : String) : '/' ∉ (pathSplit path).2.toList := by
  intro member
  have kept := List.mem_takeWhile_imp (List.mem_reverse.mp member)
  simp at kept

/-- The names of a non-empty path joined with one more name, read as `path.Clean` reads them. -/
theorem cleanNames_pathJoin_pair {directory : String} (nonempty : directory ≠ "") {file : String}
    (noSlash : '/' ∉ file.toList) :
    isAbs (pathJoin [directory, file]) = isAbs directory ∧
      cleanNames (pathJoin [directory, file]) =
        (cleanStep (isAbs directory) (cleanNames directory).reverse file).reverse := by
  have joined : pathJoin [directory, file] = pathClean (directory ++ "/" ++ file) := by
    simp [pathJoin, nonempty, slashJoin_cons_cons]
  have rooted : isAbs (directory ++ "/" ++ file) = isAbs directory := by
    rw [String.append_assoc, isAbs_append nonempty]
  have parts : partsOf file '/' = [file] := by
    simpa using partsOf_slashJoin (List.cons_ne_nil file []) (by simpa using noSlash)
  rw [joined, isAbs_pathClean, cleanNames_pathClean, rooted]
  refine ⟨rfl, ?_⟩
  rw [cleanNames, rooted, partsOf_append_slash, parts, List.foldl_append, cleanNames,
    List.reverse_reverse]
  rfl

/-- **A name other than `..` joined to a path stays under it.** -/
theorem cleanNames_pathJoin_of_ne_dotdot {directory : String} (nonempty : directory ≠ "")
    {file : String} (noSlash : '/' ∉ file.toList) (notUp : file ≠ "..") :
    isAbs (pathJoin [directory, file]) = isAbs directory ∧
      ∃ names, cleanNames (pathJoin [directory, file]) = cleanNames directory ++ names := by
  obtain ⟨rooted, names⟩ := cleanNames_pathJoin_pair nonempty noSlash
  refine ⟨rooted, ?_⟩
  rw [names]
  unfold cleanStep
  split_ifs
  · exact ⟨[], by simp⟩
  · exact ⟨[file], by simp⟩

/-- **`..` joined to a rooted path names its parent.** -/
theorem cleanNames_pathJoin_dotdot {directory : String} (nonempty : directory ≠ "")
    (rooted : isAbs directory = true) :
    cleanNames (pathJoin [directory, ".."]) = (cleanNames directory).dropLast := by
  obtain ⟨kept, ⟨real, ups, stack, plain, rootedUps⟩, names⟩ := kept_cleanNames directory
  rw [rooted] at rootedUps
  obtain rfl := rootedUps rfl
  rw [(cleanNames_pathJoin_pair nonempty (by decide)).2, names, List.reverse_reverse, rooted, stack]
  cases real with
  | nil => rfl
  | cons top rest =>
    have notUp : top ≠ ".." := (plain top (List.mem_cons_self _ _)).2.2.1
    simp [cleanStep, notUp]

end ModuleInstaller.Util
