import DeckPress.Proofs.Site.Build
import DeckPress.Proofs.Tree.Files
import DeckPress.Proofs.Tree.Spare

/-!
# Programs that stay in the directory they are given

A renderer may fail half-way and leave anything, but it has no business outside the directory that
its command line names for the site.  There are three ways to say so:

* `Program.StaysIn` — whatever its end, a run of the program changes nothing but that directory,
  with what is in it and on the way to it, and leaves a well-formed tree well-formed.
* `Program.FilesIn` — the run touches no file but those in that directory, and leaves a well-formed
  tree well-formed; nothing is said of directories.
* `Program.WritesIn` — the run touches nothing that is there outside the place of that directory, by
  whatever way the command line leads to it.

Programs that write fixed files do all three, if no name of a file leads out: `staysIn_writer`,
`filesIn_writer`, `writesIn_writer`.  Each is shown of the operations that put a file into a
directory; `leftBy_bind`, `leftBy_installAll` and `writeFiles_of` carry it over to the run.
-/

namespace DeckPress

variable {dir p : Path} {name : String} {files : List (String × Node)}

namespace Tree

variable {t u v : Tree} {D E : Loc → Prop} {cwd : Loc} {n : Node} {seen : Path → Bool}

/-! ## One operation after the other -/

/-- The tree that an operation leaves, whether it succeeds or breaks off. -/
def leftBy : Except Broken Tree → Tree
  | .ok t => t
  | .error b => b.2.2

section Steps

variable {R : Tree → Tree → Prop}

/-- What an operation and the next one leave, the sequence does. -/
theorem leftBy_bind (htrans : ∀ {t u v}, R t u → R u v → R t v) {a : Except Broken Tree}
    {f : Tree → Except Broken Tree} (ha : R t (leftBy a))
    (hf : ∀ v, a = .ok v → R v (leftBy (f v))) : R t (leftBy (a >>= f)) := by
  cases a with
  | error b => exact ha
  | ok v => exact htrans ha (hf v rfl)

/-- A node is put at a path by making directories and writing a file. -/
theorem leftBy_install (htrans : ∀ {t u v}, R t u → R u v → R t v)
    (hmake : R t (leftBy (t.makeDirectories cwd (fun _ => true) p)))
    (hparent : R t (leftBy (t.makeDirectories cwd (fun _ => true) p.parent)))
    (hwrite : ∀ (v : Tree) (f : File),
      R v (leftBy ((v.locate cwd p >>= fun k => v.writeFile k f).mapError (·, p, v)))) :
    R t (leftBy (t.install cwd p n)) := by
  cases n with
  | directory => exact hmake
  | file f => exact leftBy_bind @htrans hparent fun v _ => hwrite v f

/-- Files are put into a directory one after the other. -/
theorem leftBy_installAll (hrefl : ∀ t, R t t) (htrans : ∀ {t u v}, R t u → R u v → R t v)
    (hinstall : ∀ e ∈ files, ∀ t, R t (leftBy (t.install cwd (dir / e.1) e.2))) (t : Tree) :
    R t (leftBy (installAll cwd dir files t)) := by
  induction files generalizing t with
  | nil => exact hrefl t
  | cons e files ih =>
    obtain ⟨hfirst, hrest⟩ := List.forall_mem_cons.mp hinstall
    exact leftBy_bind @htrans (hfirst t) fun v _ => ih hrest v

/-- A file that is written, or not, where a path leads. -/
theorem leftBy_writeFile (hrefl : ∀ t, R t t) {f : File}
    (hwrite : ∀ k u, t.locate cwd p = .ok k → t.writeFile k f = .ok u → R t u) :
    R t (leftBy ((t.locate cwd p >>= fun k => t.writeFile k f).mapError (·, p, t))) := by
  cases hk : t.locate cwd p with
  | error e => exact hrefl t
  | ok k =>
    cases hu : t.writeFile k f with
    | error e =>
      simp only [bind, Except.bind, hu]
      exact hrefl t
    | ok u =>
      simp only [bind, Except.bind, hu]
      exact hwrite k u hk hu

/-- The tree that is left by the making of directories, whichever way it ends. -/
theorem leftBy_makeDirectories (hok : ∀ u, t.makeDirectories cwd seen p = .ok u → R t u)
    (herror : ∀ e q u, t.makeDirectories cwd seen p = .error (e, q, u) → R t u) :
    R t (leftBy (t.makeDirectories cwd seen p)) := by
  cases hr : t.makeDirectories cwd seen p with
  | ok u => exact hok u hr
  | error b => exact herror b.1 b.2.1 b.2.2 hr

end Steps

/-- A file goes to a plain path in the directory, if its name does not lead out of it. -/
theorem plain_of_confined (hp : dir.IsPlain) (hnul : dir.hasNul = false) (hname : Confined name)
    (hnul' : (Path.ofString name).hasNul = false) :
    (dir / name).IsPlain ∧ (dir / name).hasNul = false ∧ dir.names <+: (dir / name).names := by
  refine ⟨?_, Path.hasNul_div hnul hnul', ?_⟩
  · rw [div_of_confined _ hname]
    exact Path.isPlain_below hp (proper_of_confined hname)
  · rw [div_of_confined _ hname]
    exact List.prefix_append _ _

/-! ## What is in the directory, and on the way to it -/

/-- The tree `u` holds the same as `t` outside `D`, and is well-formed if `t` is. -/
structure Within (D : Loc → Prop) (t u : Tree) : Prop where
  same : SameBut D t u
  wellFormed : t.WellFormed → u.WellFormed

theorem Within.refl (D : Loc → Prop) (t : Tree) : Within D t t := ⟨.refl D t, id⟩

theorem Within.trans (h : Within D t u) (h' : Within D u v) : Within D t v :=
  ⟨h.same.trans h'.same, h'.wellFormed ∘ h.wellFormed⟩

theorem Within.mono (h : Within D t u) (hDE : ∀ q, D q → E q) : Within E t u :=
  ⟨h.same.mono hDE, h.wellFormed⟩

theorem within_makeDirectories (hp : p.IsPlain) (hnul : p.hasNul = false) :
    Within (· <+: p.names) t (leftBy (t.makeDirectories cwd seen p)) := by
  refine leftBy_makeDirectories (fun u h => ?_) fun e q u h => ?_
  · exact ⟨(sameBut_of_makeDirectories hp).1 u h,
      ((filesWithin_of_makeDirectories (D := fun _ => False) hp hnul).1 u h).wellFormed⟩
  · exact ⟨(sameBut_of_makeDirectories hp).2 e q u h,
      ((filesWithin_of_makeDirectories (D := fun _ => False) hp hnul).2 e q u h).wellFormed⟩

/-- What is on the way to a place below `k` is on the way to `k`, or below it. -/
theorem around_of_prefix {k q r : Loc} (hk : k <+: r) (hq : q <+: r) : Around k q :=
  (List.prefix_or_prefix_of_prefix hq hk).symm

theorem within_install (hp : dir.IsPlain) (hnul : dir.hasNul = false) (hname : Confined name)
    (hnul' : (Path.ofString name).hasNul = false) :
    Within (Around dir.names) t (leftBy (t.install cwd (dir / name) n)) := by
  obtain ⟨hplain, hfree, hbelow⟩ := plain_of_confined hp hnul hname hnul'
  refine leftBy_install .trans ((within_makeDirectories hplain hfree).mono fun q hq => ?_)
    ((within_makeDirectories hplain.parent (Path.hasNul_parent hfree)).mono fun q hq => ?_)
    fun v f => leftBy_writeFile (.refl _) fun k u hk hu => ?_
  · exact around_of_prefix hbelow hq
  · exact around_of_prefix hbelow (hq.trans (List.dropLast_prefix _))
  · obtain ⟨-, -, rfl⟩ := (locate_eq_ok hplain).mp hk
    exact ⟨(sameBut_of_writeFile hu).mono fun q hq => .inl (hq ▸ hbelow),
      (filesWithin_of_writeFile hplain hfree hk hu).wellFormed⟩

/-! ## The files in the directory -/

theorem filesWithin_leftBy (hp : p.IsPlain) (hnul : p.hasNul = false) :
    FilesWithin D t (leftBy (t.makeDirectories cwd seen p)) :=
  leftBy_makeDirectories (filesWithin_of_makeDirectories hp hnul).1
    (filesWithin_of_makeDirectories hp hnul).2

theorem filesWithin_install (hp : dir.IsPlain) (hnul : dir.hasNul = false) (hname : Confined name)
    (hnul' : (Path.ofString name).hasNul = false) :
    FilesWithin (Below dir.names) t (leftBy (t.install cwd (dir / name) n)) := by
  obtain ⟨hplain, hfree, hbelow⟩ := plain_of_confined hp hnul hname hnul'
  refine leftBy_install .trans (filesWithin_leftBy hplain hfree)
    (filesWithin_leftBy hplain.parent (Path.hasNul_parent hfree))
    fun v f => leftBy_writeFile (.refl _) fun k u hk hu => ?_
  exact (filesWithin_of_writeFile hplain hfree hk hu).mono fun q hq => hq ▸ hbelow

/-! ## Wherever the directory is -/

theorem spares_leftBy (D : Loc → Prop) (t : Tree) (p : Path) :
    Spares D t (leftBy (t.makeDirectories cwd seen p)) := by
  refine leftBy_makeDirectories (fun u h => ?_) fun e q u h => ?_
  · exact ((spares_makeDirectories p).1 u h).mono fun _ => False.elim
  · exact ((spares_makeDirectories p).2 e q u h).mono fun _ => False.elim

theorem spares_install (hp : dir.isAbsolute = true) (hname : Confined name) :
    Spares (Below dir.place) t (leftBy (t.install cwd (dir / name) n)) := by
  rw [div_of_confined _ hname]
  refine leftBy_install .trans (spares_leftBy _ t _) (spares_leftBy _ t _) fun v f =>
    leftBy_writeFile (.refl _) fun k u hk hu => (sameBut_of_writeFile hu).spares.mono ?_
  rintro q rfl
  rw [place_of_locate (p := dir.below _) hp hk, Path.place_below hname.2]
  exact List.prefix_append _ _

end Tree

namespace Program

/-- A run of a program that writes fixed files makes the directory for the site and puts the files
there, one after the other, until it breaks off. -/
theorem writeFiles_of {R : Tree → Tree → Prop} {command : List String} {cwd : Loc} {status : Int}
    (hrefl : ∀ t, R t t) (htrans : ∀ {t u v}, R t u → R u v → R t v)
    (habs : dir.isAbsolute = true) (hproper : dir.IsProper) (hc : command[3]? = some dir.toString)
    (hmake : dir.hasNul = false →
      ∀ t : Tree, R t (Tree.leftBy (t.makeDirectories cwd (fun _ => true) dir)))
    (hinstall : dir.hasNul = false →
      ∀ e ∈ files, ∀ t : Tree, R t (Tree.leftBy (t.install cwd (dir / e.1) e.2))) (t : Tree) :
    R t (writeFiles files status command cwd t).2 := by
  rw [writeFiles]
  simp only [outputOf_eq habs hproper hc]
  cases hnul : dir.hasNul with
  | true => exact hrefl t
  | false =>
    have hleft := Tree.leftBy_bind (f := Tree.installAll cwd dir files) @htrans (hmake hnul t)
      fun v _ => Tree.leftBy_installAll hrefl @htrans (hinstall hnul) v
    simp only [Bool.false_eq_true, if_false]
    -- The run ends with the status or with a failure, but the tree is the one that is left.
    change R t (Tree.leftBy (t.makeDirectories cwd (fun _ => true) dir >>= fun v =>
      Tree.installAll cwd dir files v)) at hleft
    generalize (t.makeDirectories cwd (fun _ => true) dir >>= fun v =>
      Tree.installAll cwd dir files v) = r at hleft ⊢
    cases r with
    | ok u => exact hleft
    | error b => exact hleft

/-- Whatever its end, a run of the program for a site in `dir` changes nothing but the directory,
with what is in it and on the way to it, and leaves a well-formed tree well-formed. -/
structure StaysIn (program : Program) (dir : Path) : Prop where
  sameBut : ∀ (command : List String) (cwd : Loc) (t : Tree), command[3]? = some dir.toString →
    Tree.SameBut (Tree.Around dir.names) t (program.run command cwd t).2
  wellFormed : ∀ (command : List String) (cwd : Loc) (t : Tree),
    command[3]? = some dir.toString → t.WellFormed → (program.run command cwd t).2.WellFormed

/-- Programs that write fixed files stay in their directory, if no name of a file leads out. -/
theorem staysIn_writer (hp : dir.IsPlain)
    (hfiles : ∀ e ∈ files, Tree.Confined e.1 ∧ (Path.ofString e.1).hasNul = false) (status : Int) :
    (writer files status).StaysIn dir := by
  suffices hwithin : ∀ (command : List String) (cwd : Loc) (t : Tree),
      command[3]? = some dir.toString →
        Tree.Within (Tree.Around dir.names) t (writeFiles files status command cwd t).2 from
    ⟨fun command cwd t hc => (hwithin command cwd t hc).same,
      fun command cwd t hc => (hwithin command cwd t hc).wellFormed⟩
  intro command cwd t hc
  refine writeFiles_of (.refl _) .trans hp.absolute hp.proper hc (fun hnul t => ?_)
    (fun hnul e he t => ?_) t
  · exact (Tree.within_makeDirectories hp hnul).mono fun _ => .inr
  · exact Tree.within_install hp hnul (hfiles e he).1 (hfiles e he).2

/-- Whatever its end, a run of the program for a site in `dir` touches no file outside the
directory, and leaves a well-formed tree well-formed. -/
def FilesIn (program : Program) (dir : Path) : Prop :=
  ∀ (command : List String) (cwd : Loc) (t : Tree), command[3]? = some dir.toString →
    Tree.FilesWithin (Tree.Below dir.names) t (program.run command cwd t).2

/-- Programs that write fixed files touch no file outside their directory, if no name of a file
leads out. -/
theorem filesIn_writer (hp : dir.IsPlain)
    (hfiles : ∀ e ∈ files, Tree.Confined e.1 ∧ (Path.ofString e.1).hasNul = false) (status : Int) :
    (writer files status).FilesIn dir := by
  intro command cwd t hc
  refine writeFiles_of (.refl _) .trans hp.absolute hp.proper hc (fun hnul t => ?_)
    (fun hnul e he t => ?_) t
  · exact Tree.filesWithin_leftBy hp hnul
  · exact Tree.filesWithin_install hp hnul (hfiles e he).1 (hfiles e he).2

/-- Whatever its end, a run of the program for a site in `dir` touches nothing that is there outside
the place of the directory.  Directories that are missing on the way to it may be made. -/
def WritesIn (program : Program) (dir : Path) : Prop :=
  ∀ (command : List String) (cwd : Loc) (t : Tree), command[3]? = some dir.toString →
    Tree.Spares (Tree.Below dir.place) t (program.run command cwd t).2

/-- Programs that write fixed files touch nothing outside their directory, if no name of a file
leads out. -/
theorem writesIn_writer (habs : dir.isAbsolute = true)
    (hproper : dir.IsProper) (hfiles : ∀ e ∈ files, Tree.Confined e.1) (status : Int) :
    (writer files status).WritesIn dir := by
  intro command cwd t hc
  refine writeFiles_of (.refl _) .trans habs hproper hc (fun _ t => ?_) (fun _ e he t => ?_) t
  · exact Tree.spares_leftBy _ t dir
  · exact Tree.spares_install habs (hfiles e he)

end Program

end DeckPress
