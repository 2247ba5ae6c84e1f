import MapLoom.Proofs.Files.Path
import MapLoom.Proofs.Files.Store

set_option autoImplicit false

/-!
# Single dots on the way

A single dot that other names follow makes no difference to where a path leads. A path that is made
absolute loses all its single dots, so it leads to the same place unless it ended in one: there the
dot stood for a directory, and what is left may name a file.
-/
namespace MapLoom

namespace Files

/-- Whether a text can stand between two slashes. -/
structure IsName (name : Text) : Prop where
  ne_nil : name ≠ []
  slash : '/' ∉ name

section Names
variable {dir path name : Text} {names : List Text}

theorem isName_of_mem_pathNames (h : name ∈ pathNames path) : IsName name := by
  obtain ⟨hpiece, hne⟩ := List.mem_filter.1 h
  exact ⟨by simpa using hne, Text.not_mem_of_mem_splitAt hpiece⟩

theorem isName_of_mem_plainNames (h : name ∈ plainNames path) : IsName name :=
  isName_of_mem_pathNames (List.mem_filter.1 h).1

theorem pathNames_of_isName (h : IsName name) : pathNames name = [name] := by
  rw [pathNames, Text.splitAt_of_not_mem h.slash]
  exact List.filter_cons_of_pos (by simpa using h.ne_nil)

theorem isAbsolute_of_isName (h : IsName name) : isAbsolute name = false := by
  obtain ⟨c, rest, rfl⟩ := List.exists_cons_of_ne_nil h.ne_nil
  have hc : c ≠ '/' := fun hslash => h.slash (hslash ▸ List.mem_cons_self)
  simpa [isAbsolute] using hc

theorem pathNames_foldl_joinPath (h : ∀ name ∈ names, IsName name) :
    pathNames (names.foldl joinPath dir) = pathNames dir ++ names := by
  induction names generalizing dir with
  | nil => exact (List.append_nil _).symm
  | cons name names ih =>
    obtain ⟨hname, hnames⟩ := List.forall_mem_cons.1 h
    rw [List.foldl_cons, ih hnames, pathNames_joinPath (isAbsolute_of_isName hname),
      pathNames_of_isName hname, List.append_assoc, List.singleton_append]

theorem isAbsolute_foldl_joinPath (h : isAbsolute dir = true) :
    isAbsolute (names.foldl joinPath dir) = true := by
  induction names generalizing dir with
  | nil => exact h
  | cons name names ih => exact ih (isAbsolute_joinPath h)

theorem getLast?_joinPath_of_isName (h : IsName name) :
    (joinPath dir name).getLast? ≠ some '/' := by
  have hlast : ∀ start : Text, (start ++ name).getLast? ≠ some '/' := by
    intro start hslash
    rw [List.getLast?_append_of_ne_nil _ h.ne_nil] at hslash
    exact h.slash (List.mem_of_getLast? hslash)
  unfold joinPath
  rw [isAbsolute_of_isName h, if_neg Bool.false_ne_true]
  split
  · exact hlast dir
  · have hcons := hlast (dir ++ ['/'])
    rwa [List.append_assoc, List.singleton_append] at hcons

theorem getLast?_foldl_joinPath (hne : names ≠ []) (h : ∀ name ∈ names, IsName name) :
    (names.foldl joinPath dir).getLast? ≠ some '/' := by
  induction names generalizing dir with
  | nil => exact absurd rfl hne
  | cons name names ih =>
    obtain ⟨hname, hnames⟩ := List.forall_mem_cons.1 h
    cases names with
    | nil => exact getLast?_joinPath_of_isName hname
    | cons next names => exact ih (by simp) hnames

end Names

section Absolute
variable {cwd path : Text}

theorem pathRoot_cases (path : Text) : pathRoot path = "/" ∨ pathRoot path = "//" := by
  unfold pathRoot
  split
  · exact .inr rfl
  · exact .inl rfl

/-- An absolute path without its dots, before a final slash is put back. -/
def undotted (path : Text) : Text := (plainNames path).foldl joinPath (pathRoot path)

theorem absolute_of_isAbsolute (h : isAbsolute path = true) : absolute cwd path =
    if path.getLast? = some '/' then joinPath (undotted path) [] else undotted path := by
  unfold absolute
  rw [if_pos h]
  rfl

@[simp] theorem isAbsolute_undotted (path : Text) : isAbsolute (undotted path) = true := by
  refine isAbsolute_foldl_joinPath ?_
  rcases pathRoot_cases path with h | h <;> rw [h] <;> rfl

@[simp] theorem pathNames_undotted (path : Text) : pathNames (undotted path) = plainNames path := by
  have hroot : pathNames (pathRoot path) = [] := by
    rcases pathRoot_cases path with h | h <;> rw [h] <;> decide
  rw [undotted, pathNames_foldl_joinPath fun name => isName_of_mem_plainNames, hroot,
    List.nil_append]

theorem pathNames_absolute (h : isAbsolute path = true) :
    pathNames (absolute cwd path) = plainNames path := by
  rw [absolute_of_isAbsolute h]
  split
  · rw [pathNames_joinPath rfl, pathNames_undotted]
    exact List.append_nil _
  · exact pathNames_undotted path

theorem isAbsolute_absolute (h : isAbsolute cwd = true ∨ isAbsolute path = true) :
    isAbsolute (absolute cwd path) = true := by
  have hstart : isAbsolute (if isAbsolute path then pathRoot path else cwd) = true := by
    split
    · rcases pathRoot_cases path with hroot | hroot <;> rw [hroot] <;> rfl
    · rename_i hrelative
      exact h.resolve_right hrelative
  unfold absolute
  dsimp only
  split
  · exact isAbsolute_joinPath (isAbsolute_foldl_joinPath hstart)
  · exact isAbsolute_foldl_joinPath hstart

theorem components_absolute (h : isAbsolute path = true) :
    components (absolute cwd path) = components path := by
  rw [components_of_isAbsolute h, components_of_isAbsolute (isAbsolute_absolute (.inr h)), plainNames,
    pathNames_absolute h, plainNames, List.filter_filter]
  simp only [Bool.and_self]

theorem getLast?_undotted_iff : (undotted path).getLast? = some '/' ↔ plainNames path = [] := by
  constructor
  · intro hlast
    by_contra hne
    exact getLast?_foldl_joinPath hne (fun name => isName_of_mem_plainNames) hlast
  · intro hnil
    rw [undotted, hnil]
    rcases pathRoot_cases path with h | h <;> rw [List.foldl_nil, h] <;> rfl

theorem getLast?_absolute_iff (h : isAbsolute path = true) :
    (absolute cwd path).getLast? = some '/' ↔
      path.getLast? = some '/' ∨ plainNames path = [] := by
  rw [absolute_of_isAbsolute h]
  split
  · rename_i hslash
    refine iff_of_true ?_ (.inl hslash)
    unfold joinPath
    rw [if_neg (by decide)]
    split
    · rename_i hend
      rw [List.append_nil]
      refine hend.resolve_left fun hnil => ?_
      have habs := isAbsolute_undotted path
      rw [hnil] at habs
      cases habs
    · exact List.getLast?_concat
  · rename_i hslash
    rw [getLast?_undotted_iff, or_iff_right hslash]

end Absolute

/-- Names without the single dots that other names follow. -/
def dotless : List Text → List Text
  | [] => []
  | [name] => [name]
  | name :: next :: names =>
    if name = "." then dotless (next :: names) else name :: dotless (next :: names)

section Dotless
variable {a b names : List Text} {name : Text}

theorem dotless_cons_dot (h : names ≠ []) : dotless ("." :: names) = dotless names := by
  obtain ⟨next, names, rfl⟩ := List.exists_cons_of_ne_nil h
  rw [dotless, if_pos rfl]

theorem dotless_cons (h : names ≠ []) (hname : name ≠ ".") :
    dotless (name :: names) = name :: dotless names := by
  obtain ⟨next, names, rfl⟩ := List.exists_cons_of_ne_nil h
  rw [dotless, if_neg hname]

theorem dotless_append (h : b ≠ []) :
    dotless (a ++ b) = a.filter (fun name : Text => name ≠ ".") ++ dotless b := by
  induction a with
  | nil => rfl
  | cons name a ih =>
    have hne : a ++ b ≠ [] := by simp [h]
    rw [List.cons_append]
    by_cases hname : name = "."
    · subst hname
      rw [dotless_cons_dot hne, ih, List.filter_cons_of_neg (by simp)]
    · rw [dotless_cons hne hname, ih, List.filter_cons_of_pos (by simpa using hname),
        List.cons_append]

theorem dotless_ne_nil (h : names ≠ []) : dotless names ≠ [] := by
  induction names with
  | nil => exact absurd rfl h
  | cons name names ih =>
    cases names with
    | nil => simp [dotless]
    | cons next names =>
      by_cases hname : name = "."
      · subst hname
        rw [dotless_cons_dot (by simp)]
        exact ih (by simp)
      · rw [dotless_cons (by simp) hname]
        simp

@[simp] theorem dotless_dotless (names : List Text) : dotless (dotless names) = dotless names := by
  induction names with
  | nil => rfl
  | cons name names ih =>
    cases names with
    | nil => rfl
    | cons next names =>
      by_cases hname : name = "."
      · subst hname
        rw [dotless_cons_dot (by simp), ih]
      · rw [dotless_cons (by simp) hname, dotless_cons (dotless_ne_nil (by simp)) hname, ih]

end Dotless

namespace Tree
variable {tree : Tree} {keepLink : Bool} {links : Nat} {loc l : Location} {names : List Text}

/-- Whether two walks come to the same, up to dots among the names that are left. -/
inductive Walk.Same : Walk → Walk → Prop
  | arrived (loc : Location) : Same (.arrived loc) (.arrived loc)
  | failed (failure : Failure) : Same (.failed failure) (.failed failure)
  | linked {loc : Location} {a b : List Text} (h : dotless a = dotless b) :
      Same (.linked loc a) (.linked loc b)

theorem Walk.Same.refl (w : Walk) : w.Same w := by
  cases w with
  | arrived loc => exact .arrived loc
  | failed failure => exact .failed failure
  | linked loc names => exact .linked rfl

theorem walk_of_not_directory (hloc : tree.item? loc ≠ some .directory) (h : names ≠ []) :
    tree.walk keepLink loc names = .failed .notDirectory := by
  obtain ⟨name, names, rfl⟩ := List.exists_cons_of_ne_nil h
  unfold walk
  split
  · contradiction
  · rfl

theorem dotless_append_dotless (a : List Text) (h : names ≠ []) :
    dotless (a ++ names) = dotless (a ++ dotless names) := by
  rw [dotless_append h, dotless_append (dotless_ne_nil h), dotless_dotless]

theorem walk_dotless (tree : Tree) (keepLink : Bool) (loc : Location) (names : List Text) :
    (tree.walk keepLink loc names).Same (tree.walk keepLink loc (dotless names)) := by
  induction names generalizing loc with
  | nil => exact .refl _
  | cons name names ih =>
    by_cases hnil : names = []
    · subst hnil
      exact .refl _
    have hnil' := dotless_ne_nil hnil
    by_cases hloc : tree.item? loc = some .directory
    · by_cases hdot : name = "."
      · subst hdot
        rw [dotless_cons_dot hnil]
        simpa only [walk, hloc, if_true] using ih loc
      · rw [dotless_cons hnil hdot]
        simp only [walk, hloc, if_neg hdot, hnil, hnil', and_false, if_false]
        split
        · exact ih loc.dropLast
        · split
          · exact .failed _
          · split <;> exact .linked (dotless_append_dotless _ hnil)
          · exact ih _
    · rw [walk_of_not_directory hloc (by simp),
        walk_of_not_directory hloc (dotless_ne_nil (by simp))]
      exact .failed _

theorem follow_dotless (tree : Tree) (keepLink : Bool) (links : Nat) (loc : Location)
    (names : List Text) :
    tree.follow keepLink links loc names = tree.follow keepLink links loc (dotless names) := by
  induction links generalizing loc names with
  | zero =>
    have hwalk := tree.walk_dotless keepLink loc names
    rw [follow, follow]
    generalize tree.walk keepLink loc names = w at hwalk
    generalize tree.walk keepLink loc (dotless names) = v at hwalk
    cases hwalk <;> rfl
  | succ links ih =>
    have hwalk := tree.walk_dotless keepLink loc names
    rw [follow, follow]
    generalize tree.walk keepLink loc names = w at hwalk
    generalize tree.walk keepLink loc (dotless names) = v at hwalk
    cases hwalk with
    | arrived loc => rfl
    | failed failure => rfl
    | @linked loc a b h =>
      dsimp only
      rw [ih loc a, ih loc b, h]

theorem follow_congr {a b : List Text} (h : dotless a = dotless b) :
    tree.follow keepLink links loc a = tree.follow keepLink links loc b := by
  rw [tree.follow_dotless _ _ _ a, tree.follow_dotless _ _ _ b, h]

theorem walk_append {rest : List Text} (h : rest ≠ []) :
    tree.walk keepLink loc (names ++ rest) =
      match tree.walk false loc names with
      | .arrived l => tree.walk keepLink l rest
      | .failed failure => .failed failure
      | .linked l left => .linked l (left ++ rest) := by
  induction names generalizing loc with
  | nil => rfl
  | cons name names ih =>
    have hne : names ++ rest ≠ [] := by simp [h]
    rw [List.cons_append]
    simp only [walk, hne, and_false, if_false, Bool.false_eq_true, false_and]
    split
    · split
      · exact ih
      · split
        · exact ih
        · split
          · rfl
          · split <;> simp only [List.append_assoc]
          · exact ih
    · rfl

theorem follow_append_dot : tree.follow keepLink links loc (names ++ [("." : Text)]) = .ok l ↔
    tree.follow false links loc names = .ok l ∧ tree.item? l = some .directory := by
  have hdot : ∀ l', tree.walk keepLink l' [("." : Text)] =
      if tree.item? l' = some .directory then .arrived l' else .failed .notDirectory := by
    intro l'
    by_cases hdir : tree.item? l' = some .directory
    · rw [if_pos hdir]
      simp [walk, hdir]
    · rw [if_neg hdir, walk_of_not_directory hdir (by simp)]
  have harrived : ∀ l', (if tree.item? l' = some .directory then .ok l'
      else .error .notDirectory : Except Failure Location) = .ok l ↔
      Except.ok (ε := Failure) l' = .ok l ∧ tree.item? l = some .directory := by
    intro l'
    constructor
    · intro h
      split at h
      · rename_i hdir
        exact ⟨h, Except.ok.inj h ▸ hdir⟩
      · cases h
    · rintro ⟨h, hdir⟩
      cases h
      exact if_pos hdir
  induction links generalizing loc names with
  | zero =>
    rw [follow, follow, walk_append (by simp)]
    cases tree.walk false loc names with
    | arrived l' =>
      dsimp only
      rw [← harrived, hdot]
      by_cases hdir : tree.item? l' = some .directory
      · simp only [if_pos hdir]
      · simp only [if_neg hdir]
    | failed failure => simp
    | linked l' left => simp
  | succ links ih =>
    rw [follow, follow, walk_append (by simp)]
    cases tree.walk false loc names with
    | arrived l' =>
      dsimp only
      rw [← harrived, hdot]
      by_cases hdir : tree.item? l' = some .directory
      · simp only [if_pos hdir]
      · simp only [if_neg hdir]
    | failed failure => simp
    | linked l' left => exact ih

end Tree

def EndsInDot (path : Text) : Prop :=
  path.getLast? ≠ some '/' ∧ (pathNames path).getLast? = some ("." : Text)

instance (path : Text) : Decidable (EndsInDot path) := inferInstanceAs (Decidable (_ ∧ _))

section Steps
variable {cwd path : Text}

theorem dotless_of_plain {names : List Text} (h : ∀ name ∈ names, name ≠ ".") :
    dotless names = names := by
  induction names with
  | nil => rfl
  | cons name names ih =>
    obtain ⟨hname, hnames⟩ := List.forall_mem_cons.1 h
    by_cases hnil : names = []
    · rw [hnil]
      rfl
    · rw [dotless_cons hnil hname, ih hnames]

theorem ne_dot_of_mem_plainNames {name : Text} (h : name ∈ plainNames path) : name ≠ "." := by
  simpa using (List.mem_filter.1 h).2

theorem pathNames_ne_nil (h : isAbsolute path = true) (hslash : path.getLast? ≠ some '/') :
    pathNames path ≠ [] := by
  have hne : path ≠ [] := by
    rintro rfl
    cases h
  clear h
  induction path with
  | nil => exact absurd rfl hne
  | cons c t ih =>
    obtain ⟨piece, pieces, hsplit⟩ := List.exists_cons_of_ne_nil (Text.splitAt_ne_nil '/' t)
    by_cases hc : c = '/'
    · subst hc
      have ht : t ≠ [] := by
        rintro rfl
        exact hslash rfl
      have hrest := ih (by rwa [List.getLast?_cons_of_ne_nil ht] at hslash) ht
      rw [pathNames, hsplit] at hrest
      rw [pathNames, Text.splitAt, hsplit]
      simpa using hrest
    · rw [pathNames, Text.splitAt, hsplit]
      simp [hc]

theorem steps_absolute (h : isAbsolute path = true) : Tree.steps (absolute cwd path) =
    if path.getLast? = some '/' ∨ plainNames path = [] then plainNames path ++ [("." : Text)]
    else plainNames path := by
  unfold Tree.steps
  rw [pathNames_absolute h]
  simp only [getLast?_absolute_iff h]
  rfl

theorem dotless_concat_dot (names : List Text) : dotless (names ++ [("." : Text)]) =
    names.filter (fun name : Text => name ≠ ".") ++ [("." : Text)] :=
  dotless_append (by simp)

/-- Up to dots on the way, a path is followed as it is when made absolute, but for a dot at its
end. -/
theorem dotless_steps_absolute (cwd : Text) (h : isAbsolute path = true) :
    dotless (Tree.steps (absolute cwd path)) = dotless (Tree.steps path) ∨
      EndsInDot path ∧
        dotless (Tree.steps path) = Tree.steps (absolute cwd path) ++ [("." : Text)] := by
  have hfilter : (plainNames path).filter (fun name : Text => name ≠ ".") = plainNames path :=
    List.filter_eq_self.2 fun name hname => by simpa using ne_dot_of_mem_plainNames hname
  have hplain : dotless (plainNames path) = plainNames path :=
    dotless_of_plain fun name => ne_dot_of_mem_plainNames
  rw [steps_absolute h]
  by_cases hslash : path.getLast? = some '/'
  · left
    have hsteps : Tree.steps path = pathNames path ++ [("." : Text)] := if_pos hslash
    rw [if_pos (.inl hslash), hsteps, dotless_concat_dot, dotless_concat_dot, hfilter]
    rfl
  · have hsteps : Tree.steps path = pathNames path := if_neg hslash
    obtain ⟨init, last, hnames⟩ :=
      (List.eq_nil_or_concat' _).resolve_left (pathNames_ne_nil h hslash)
    rw [hsteps, hnames]
    by_cases hlast : last = "."
    · subst hlast
      have hinit : init.filter (fun name : Text => name ≠ ".") = plainNames path := by
        rw [plainNames, hnames, List.filter_append]
        simp
      rw [dotless_concat_dot, hinit]
      by_cases hnil : plainNames path = []
      · left
        rw [if_pos (.inr hnil), hnil]
        rfl
      · right
        rw [if_neg (not_or.2 ⟨hslash, hnil⟩)]
        refine ⟨⟨hslash, ?_⟩, rfl⟩
        rw [hnames]
        exact List.getLast?_concat
    · left
      have hconcat : plainNames path =
          init.filter (fun name : Text => name ≠ ".") ++ [last] := by
        rw [plainNames, hnames, List.filter_append, List.filter_cons_of_pos (by simpa using hlast)]
        rfl
      rw [if_neg (not_or.2 ⟨hslash, by simp [hconcat]⟩), hplain, dotless_append (by simp), hconcat]
      rfl

end Steps

namespace Tree
variable {tree : Tree} {a b : Text} {l : Location}

theorem locate_eq_of_dotless (ha : a ≠ []) (hb : b ≠ [])
    (h : dotless (steps a) = dotless (steps b)) : tree.locate a = tree.locate b := by
  rw [locate, locate, if_neg ha, if_neg hb, follow_congr h]

theorem isLink_eq_of_dotless (h : dotless (steps a) = dotless (steps b)) :
    tree.isLink a = tree.isLink b := by
  rw [isLink, isLink, follow_congr h]

theorem locate_eq_ok_iff_of_dot (ha : a ≠ []) (hb : b ≠ [])
    (h : dotless (steps a) = steps b ++ [("." : Text)]) :
    tree.locate a = .ok l ↔ tree.locate b = .ok l ∧ tree.item? l = some .directory := by
  rw [locate, locate, if_neg ha, if_neg hb, follow_dotless, h, follow_append_dot]

theorem isLink_eq_false_of_dot (h : dotless (steps a) = steps b ++ [("." : Text)]) :
    tree.isLink a = false := by
  rw [isLink, follow_dotless, h]
  cases hfollow : tree.follow true 40 [] (steps b ++ [("." : Text)]) with
  | error failure => rfl
  | ok l => simp only [(follow_append_dot.1 hfollow).2]

end Tree

end Files
end MapLoom
