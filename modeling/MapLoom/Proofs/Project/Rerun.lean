import MapLoom.Proofs.Project.Later
import MapLoom.Proofs.Weave.Gate
import MapLoom.Proofs.Weave.Normalize

set_option autoImplicit false

/-!
# Running again

A file that was generated is generated again with the text that it has: what was woven passes the
gate, scans to the same spans and tags, and takes the same contents. What is settled stays so while
other files are processed, also when another path leads to the same file. A template that draws a
number is another matter, since the next number is another one.
-/
namespace MapLoom
open Files (Tree Location)
open Text (Whole)

theorem Modules.whole_render {m : Modules} {tag content : Text} {source : SchemaSource}
    (h : m.render tag source = .ok content) : Whole content := by
  unfold Modules.render at h
  split at h
  · cases h
  · split at h
    · cases h
    · split at h
      · cases h
        exact whole_normalize _
      · cases h

namespace Project
variable {p : Project} {tree : Tree} {path : Text}

def Plain (p : Project) (content : Text) : Prop :=
  ∀ line ∈ content.lines, Text.hasInfix p.config.sentinel line = false

theorem renders_of_slot {t content : Text} {f : Frame p.config.sentinel}
    {interiors : List (List Text)} (ht : t.lines = f.fill interiors) (hfits : f.Fits interiors)
    {s : Slot p.config.sentinel} (hs : s ∈ f.slots)
    (hrender : p.modules.render s.tag p.source = .ok content) : p.Renders t s.tag content := by
  have htag : s.tag ∈ (f.blocks interiors).map Block.tag := by
    rw [hfits.tags_blocks]
    exact List.mem_map_of_mem hs
  exact ⟨_, scan_of_lines_eq_fill ht hfits, htag, hrender⟩

/-- What was woven is woven again to itself, and passes the gate when the text before did. -/
theorem weave_again (hcr : '\r' ∉ p.config.sentinel) (hlf : '\n' ∉ p.config.sentinel)
    {t woven : Text} {n : Nat} (h : p.weave path t = .ok (some (n, woven)))
    (hplain : ∀ tag content, p.Renders t tag content → p.Plain content) :
    p.weave path woven = .ok (some (n, woven)) ∧
    (hasMarker p.config.sentinel t = true → hasMarker p.config.sentinel woven = true) := by
  obtain ⟨f, interiors, contents, hfits, ht, hlen, hpos, hrender, hwoven⟩ :=
    exists_frame_of_weave h
  have hwhole : ∀ c ∈ contents, Whole c := by
    intro c hc
    obtain ⟨s, -, hs⟩ := exists_slot_of_rendered hrender hc
    exact Modules.whole_render hs
  have hcontents : ∀ c ∈ contents, p.Plain c := by
    intro c hc
    obtain ⟨s, hs, hc⟩ := exists_slot_of_rendered hrender hc
    exact hplain s.tag c (renders_of_slot ht hfits hs hc)
  have hin := f.length_inserted_spans (length_eq_of_rendered hrender)
  have hlines := Frame.lines_interleave_spans ht hfits hin (whole_inserted hwhole f.spans)
  have hfits' := Frame.fits_lines hin (plain_inserted hcr hlf hcontents f.spans)
  rw [← hwoven] at hlines
  have hslots : f.slots ≠ [] := List.length_pos_iff.1 (by omega)
  have hweave := weave_of_frame path hfits' hlines hslots hrender
  rw [hlen, ← hwoven] at hweave
  exact ⟨hweave, hasMarker_of_fill hlf ht hfits hlines hfits'.length_eq⟩

/-- Whether processing a path comes to an outcome and changes nothing. -/
structure Settled (p : Project) (tree : Tree) (path : Text) (outcome : Outcome)
    (events : List Event) : Prop where
  result_eq : (p.process tree path).result = .ok outcome
  events_eq : (p.process tree path).events = events
  tree_eq : (p.process tree path).tree = tree

section
variable {outcome : Outcome} {events : List Event}

theorem settled_of_process (hcr : '\r' ∉ p.config.sentinel) (hlf : '\n' ∉ p.config.sentinel)
    (h : (p.process tree path).result = .ok outcome)
    (hplain : ∀ t tag content, p.gate tree path = .ok (.pass t) → p.Renders t tag content →
      p.Plain content) :
    p.Settled (p.process tree path).tree path outcome (p.process tree path).events := by
  rcases p.process_cases tree path with ⟨htree, -⟩ |
    ⟨loc, old, mode, n, woven, hnames, hitem, hgate, hweave, hprocess⟩
  · rw [htree]
    exact ⟨h, rfl, htree⟩
  · rw [hprocess] at h ⊢
    cases h
    have halike := Tree.alike_set hitem (.text woven)
    have hne := Tree.ne_nil_of_file hitem
    have hitem' : (tree.set loc (.file (.text woven) mode)).item? loc =
        some (.file (.text woven) mode) := Tree.item?_set_self hne
    obtain ⟨hpath, hlink, hlist, -, hmarker⟩ := gate_eq_pass_iff.1 hgate
    obtain ⟨hagain, hmarker'⟩ := weave_again hcr hlf hweave fun tag content =>
      hplain old tag content hgate
    have hgate' : p.gate (tree.set loc (.file (.text woven) mode)) path = .ok (.pass woven) :=
      gate_eq_pass_iff.2 ⟨halike.hasPath_eq path ▸ hpath, halike.isLink_eq path ▸ hlink, hlist,
        Tree.read_set_of_names hnames hitem woven, hmarker' hmarker⟩
    have hfixed := Tree.set_of_item? hne hitem'
    have hsecond := process_of_weave (halike.names_iff.1 hnames) hitem' hgate' hagain
    rw [hfixed] at hsecond
    constructor <;> rw [hsecond]

theorem Settled.congr {other : Tree} (h : p.Settled tree path outcome events)
    (halike : tree.Alike other) (hitem : p.config.inWorklist path = true →
      ∀ loc, tree.Names path loc → tree.item? loc = other.item? loc) :
    p.Settled other path outcome events := by
  have hgate : p.gate tree path = p.gate other path := gate_congr halike hitem
  obtain ⟨hresult, hevents⟩ := process_congr hgate
  refine ⟨hresult ▸ h.result_eq, hevents ▸ h.events_eq, ?_⟩
  rcases p.process_cases other path with ⟨htree, -⟩ |
    ⟨loc, old, mode, n, woven, hnames, hold, hpass, hweave, hprocess⟩
  · exact htree
  · have hnames' := halike.names_iff.2 hnames
    have hitem' := hitem (gate_eq_pass_iff.1 hpass).2.2.1 loc hnames'
    have hne := Tree.ne_nil_of_file hold
    have hsame := process_of_weave hnames' (hitem'.trans hold) (hgate.trans hpass) hweave
    have hset : tree.set loc (.file (.text woven) mode) = tree :=
      (congrArg FileRun.tree hsame).symm.trans h.tree_eq
    have hwoven : tree.item? loc = some (.file (.text woven) mode) := by
      rw [← hset]
      exact Tree.item?_set_self hne
    rw [hprocess]
    exact Tree.set_of_item? hne (hitem'.symm.trans hwoven)

/-- What is settled stays so when another path is processed, even one that names the same file. -/
theorem Settled.process (h : p.Settled tree path outcome events) (other : Text) :
    p.Settled (p.process tree other).tree path outcome events := by
  rcases p.process_cases tree other with ⟨htree, -⟩ |
    ⟨loc, old, mode, n, woven, hnames, hitem, hgate, hweave, hprocess⟩
  · rwa [htree]
  · rw [hprocess]
    by_cases hsame : p.config.inWorklist path = true ∧ tree.Names path loc
    · -- both paths name the file, and it already holds what is woven from it
      obtain ⟨hlist, hnames'⟩ := hsame
      obtain ⟨-, -, -, -, hmarker⟩ := gate_eq_pass_iff.1 hgate
      have hread := Tree.read_eq_ok_iff.2 ⟨loc, mode, hnames'.2, hitem⟩
      have hpath : tree.hasPath path = true := by simp [Tree.hasPath, Tree.find?, hnames'.2, hitem]
      have hgate' := gate_eq_pass_iff.2 ⟨hpath, hnames'.1, hlist, hread, hmarker⟩
      have hsame := process_of_weave hnames' hitem hgate' (weave_ok_congr hweave path)
      have hset : tree.set loc (.file (.text woven) mode) = tree :=
        (congrArg FileRun.tree hsame).symm.trans h.tree_eq
      rwa [hset]
    · refine h.congr (Tree.alike_set hitem _) fun hlist l hl => ?_
      have hne : l ≠ loc := by
        rintro rfl
        exact hsame ⟨hlist, hl⟩
      exact (Tree.item?_set_of_ne (Tree.ne_nil_of_file hitem) hne).symm

theorem Settled.runPaths (h : p.Settled tree path outcome events) (paths : List Text) :
    p.Settled (p.runPaths tree paths).tree path outcome events :=
  runPaths_preserves (P := fun current => p.Settled current path outcome events)
    (fun _ other h => h.process other) paths h

end

theorem runPaths_again (hcr : '\r' ∉ p.config.sentinel) (hlf : '\n' ∉ p.config.sentinel)
    {paths : List Text} {report : List (Text × Outcome)}
    (h : (p.runPaths tree paths).result = .ok report)
    (hplain : ∀ tag content, p.RendersDuring tree paths tag content → p.Plain content) :
    p.runPaths (p.runPaths tree paths).tree paths = p.runPaths tree paths := by
  induction paths generalizing tree report with
  | nil => rfl
  | cons path paths ih =>
    obtain ⟨outcome, rest, hresult, hrest⟩ := exists_results_of_cons h
    have hsettled := settled_of_process hcr hlf hresult fun t tag content hpass hrenders =>
      hplain tag content (.here hpass hrenders)
    -- settled by its own step, and still so when the other paths were processed
    have hlater := hsettled.runPaths paths
    have hagain := ih hrest fun tag content hrenders => hplain tag content (.later hrenders)
    rw [runPaths_cons_ok hresult, runPaths_cons_ok hlater.result_eq, hlater.events_eq,
      hlater.tree_eq, hagain]

/-- A second run, for which functions may give something else, comes to the same report and events
and changes nothing, as long as the first one succeeds, renders no line with the sentinel, and renders
only what is rendered alike again. -/
theorem run_again (p : Project) (functions : SourceFunctions) (tree : Tree)
    (report : List (Text × Outcome))
    (hcr : '\r' ∉ p.config.sentinel) (hlf : '\n' ∉ p.config.sentinel)
    (h : (p.run tree).result = .ok report)
    (hplain : ∀ tag content, p.RendersDuring tree p.config.worklistPaths tag content →
      ∀ line ∈ content.lines, Text.hasInfix p.config.sentinel line = false)
    (hsteady : ∀ tag content, p.RendersDuring tree p.config.worklistPaths tag content →
      p.Steady functions tag content) :
    (p.later functions).run (p.run tree).tree =
      ⟨.ok report, (p.run tree).events, (p.run tree).tree⟩ := by
  have hlater : (p.later functions).run tree = p.run tree := runPaths_later h hsteady
  have hagain : (p.later functions).run ((p.later functions).run tree).tree =
      (p.later functions).run tree :=
    runPaths_again (p := p.later functions) hcr hlf (hlater ▸ h) fun tag content hrenders =>
      hplain tag content (.of_later h hsteady hrenders)
  rw [hlater] at hagain
  rw [hagain, ← h]

/-- Target files of which the first one is generated, the second is missing and the third a link. -/
def linkedTree : Tree where
  items :=
    [(["a"], .file (.text "p\n@ | g \x7b\r\nold\n@ \x7d\nq") 0o644), (["c"], .link "a")]

theorem RendersDuring.render_eq {paths : List Text} {tag content : Text}
    (h : p.RendersDuring tree paths tag content) :
    p.modules.render tag p.source = .ok content := by
  induction h with
  | here _ renders =>
    obtain ⟨_, -, -, hrender⟩ := renders
    exact hrender
  | later _ ih => exact ih

theorem tag_eq_of_render {template : LoadedTemplate} {tag content : Text}
    (htemplates : p.modules.templates = [(['g'], template)])
    (h : p.modules.render tag p.source = .ok content) : tag = ['g'] := by
  by_contra htag
  have hne : (tag == ['g']) = false := beq_eq_false_iff_ne.2 htag
  have hget : p.modules.templates.lookup tag = none := by
    simp [htemplates, List.lookup_cons, hne]
  simp [Modules.render, Modules.resolve, hget] at h

theorem run_linked_again :
    (sample.run linkedTree).result =
      .ok [("/a", .generated 1), ("/b", .missing), ("/c", .symlink)] ∧
    (sample.later (.random 1)).run (sample.run linkedTree).tree =
      ⟨.ok [("/a", .generated 1), ("/b", .missing), ("/c", .symlink)],
        (sample.run linkedTree).events, (sample.run linkedTree).tree⟩ := by
  have h : (sample.run linkedTree).result =
      .ok [("/a", .generated 1), ("/b", .missing), ("/c", .symlink)] := rfl
  refine ⟨h, run_again sample (.random 1) linkedTree _ (by decide) (by decide) h ?plain ?steady⟩
  case plain =>
    intro tag content hrenders
    obtain rfl := tag_eq_of_render rfl hrenders.render_eq
    have hcontent : sample.modules.render "g" sample.source = .ok "x\ny\n" := rfl
    cases hcontent.symm.trans hrenders.render_eq
    decide
  case steady =>
    intro tag content hrenders
    obtain rfl := tag_eq_of_render rfl hrenders.render_eq
    exact .callFree rfl rfl

def drawing : Project where
  config := sample.config
  source := sample.source
  modules :=
    { sample.modules with
      templates := [("g", ⟨.file "/m/g.tera", (Template.ofText?
        "x \x7b\x7b get_random(start=0, end=1000000000) \x7d\x7d\n").getD []⟩)] }

def drawnTree : Tree where
  items :=
    [(["a"], .file (.text "p\n@ | g \x7b\r\nx 588206356\r\n@ \x7d\nq") 0o644), (["c"], .link "a")]

theorem run_drawing_tree : (drawing.run linkedTree).tree = drawnTree := by
  have hitems : (drawing.run linkedTree).tree.items = drawnTree.items := by decide +kernel
  generalize (drawing.run linkedTree).tree = tree at hitems
  cases tree
  cases hitems
  rfl

/-- In a second run the template draws another number. -/
theorem not_all_runs_again :
    ¬ ∀ (p : Project) (functions : SourceFunctions) (tree : Tree) (report : List (Text × Outcome)),
      '\r' ∉ p.config.sentinel → '\n' ∉ p.config.sentinel → (p.run tree).result = .ok report →
      (∀ tag content, p.RendersDuring tree p.config.worklistPaths tag content →
        ∀ line ∈ content.lines, Text.hasInfix p.config.sentinel line = false) →
      (p.later functions).run (p.run tree).tree =
        ⟨.ok report, (p.run tree).events, (p.run tree).tree⟩ := by
  intro h
  have hok : (drawing.run linkedTree).result.isOk = true := by decide +kernel
  have hplain : (drawing.modules.render ['g'] drawing.source).toOption.all
      (fun content => content.lines.all fun line =>
        !Text.hasInfix drawing.config.sentinel line) = true := by decide +kernel
  have hother : ((drawing.later (.random 1)).run drawnTree).tree.read "/a" ≠
      drawnTree.read "/a" := by decide +kernel
  cases hreport : (drawing.run linkedTree).result with
  | error e =>
    rw [hreport] at hok
    cases hok
  | ok report =>
    have hagain := h drawing (.random 1) linkedTree report (by decide) (by decide) hreport
      fun tag content hrenders => by
        obtain rfl := tag_eq_of_render rfl hrenders.render_eq
        rw [hrenders.render_eq] at hplain
        simpa only [Bool.not_eq_true'] using List.all_eq_true.1 hplain
    rw [run_drawing_tree] at hagain
    rw [hagain] at hother
    exact hother rfl

end Project
end MapLoom
