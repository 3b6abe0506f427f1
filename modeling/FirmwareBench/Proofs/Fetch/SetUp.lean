import FirmwareBench.Proofs.Fetch.FirstLink
import FirmwareBench.Proofs.Fetch.Independence

/-!
# Orders that leave the files alone

Before it changes anything the program reads all that it needs: the manifest, the artifacts asked
for, and the README. Where one of them is missing, it ends at once. A dry run goes on, but all that
it does is to print.

In both cases the program ends in the same way whatever starts the download commands; so none is
started.

## Main definitions

* `Bootstrap.Order.Offers`: the artifacts that an order chooses from.
* `Bootstrap.Order.Lacks`: something that the order needs is missing.
* `Bootstrap.Order.Finds`: everything is there.

## Main statements

* `Bootstrap.Order.gather_eq_ok_iff`, `Bootstrap.Order.lacks_iff`: what is needed is gathered
  exactly if it is there.
* `failures_eq_nil_iff`: a run without failures is one in which every artifact can be fetched.
* `Bootstrap.run_leaves_files`: orders that lack something, and dry runs.
-/

set_option autoImplicit false

namespace FirmwareBench

/-- A computation succeeds if its two parts do, one after the other. -/
theorem bind_eq_ok_iff {ε α β : Type} {first : Except ε α} {next : α → Except ε β} {result : β} :
    first >>= next = .ok result ↔ ∃ a, first = .ok a ∧ next a = .ok result := by
  cases first <;> simp [bind, Except.bind]

/-! ## Runs without failures -/

/-- The artifact has an address, and the answer to the call for it is a success. -/
def Artifact.CanBeFetched (a : Artifact) (answer : String → Path → Except FetchError Unit)
    (readme : String) (outDir : Path) : Prop :=
  ∃ url, a.address readme = .ok url ∧ answer url (outDir.join (.ofString a.file)) = .ok ()

section

variable {σ : Type} {downloader : Downloader σ} {answer : String → Path → Except FetchError Unit}
  (hanswer : ∀ state url dest, (downloader state url dest).2 = answer url dest)
include hanswer

/-- An artifact is completed or it fails, and only what can be fetched is completed. -/
theorem fetchOne_of_answer (readme : String) (outDir : Path) (a : Artifact) (state : σ) :
    (∃ path, (fetchOne downloader readme outDir a state).2 = .completed path ∧
        a.CanBeFetched answer readme outDir) ∨
      ∃ error, (fetchOne downloader readme outDir a state).2 = .failed error ∧
        ¬ a.CanBeFetched answer readme outDir := by
  unfold fetchOne Artifact.CanBeFetched
  cases haddress : a.address readme with
  | error error => exact .inr ⟨error, rfl, by simp⟩
  | ok url =>
      have hresult := hanswer state url (outDir.join (.ofString a.file))
      rcases hcall : downloader state url (outDir.join (.ofString a.file)) with
        ⟨next, error | ⟨⟩⟩
      · rw [hcall] at hresult
        exact .inr ⟨error, by simp [hcall], by simp [← hresult]⟩
      · rw [hcall] at hresult
        exact .inl ⟨outDir.join (.ofString a.file), by simp [hcall], url, rfl, hresult.symm⟩

/-- **No failures mean that everything can be fetched**, whatever a failure means for the artifacts
after it. -/
theorem failures_eq_nil_iff (policy : Policy) (readme : String) (outDir : Path)
    (artifacts : List Artifact) (state : σ) :
    (fetchAll downloader policy readme outDir artifacts state).2.failures = [] ↔
      ∀ a ∈ artifacts, a.CanBeFetched answer readme outDir := by
  show (Report.mk
    (fetchFrom downloader policy readme outDir false artifacts state).2).failures = [] ↔ _
  induction artifacts generalizing state with
  | nil => simp [Report.failures]
  | cons a rest ih =>
      rw [fetchFrom_cons _ _ _ _ (by simp), List.forall_mem_cons]
      -- behind a completed artifact the run goes on as it began; a failure stays in the report
      rcases fetchOne_of_answer hanswer readme outDir a state with
        ⟨path, hcompleted, hcan⟩ | ⟨error, hfailed, hcannot⟩
      · simp only [hcompleted, Report.failures_cons_completed, hcan, true_and]
        exact ih _
      · simp only [hfailed, Report.failures_cons_failed, hcannot, false_and, reduceCtorEq]

end

/-! ## Printing -/

namespace DownloadCommand

/-- What printing a command comes to. -/
def printed (command : DownloadCommand) (url : String) (dest : Path) : Except FetchError Unit :=
  (command.render url dest).map fun _ => ()

/-- A command can be written down exactly if its template has a word. -/
theorem printed_eq_ok_iff {command : DownloadCommand} {url : String} {dest : Path} :
    command.printed url dest = .ok () ↔ Text.words command.template.toList ≠ [] := by
  rw [printed, render, arguments]
  cases Text.words command.template.toList <;> simp [Except.map]

end DownloadCommand

theorem printing_answers {σ : Type} (print : σ → String → σ) (command : DownloadCommand)
    (state : σ) (url : String) (dest : Path) :
    (Downloader.printing print command state url dest).2 = command.printed url dest := by
  rw [Downloader.printing, DownloadCommand.printed]
  cases command.render url dest <;> rfl

/-- The downloader that prints to a host. -/
abbrev Downloader.onScreen (command : DownloadCommand) : Downloader Host :=
  .printing (fun host line => host.print (line ++ "\n")) command

/-- Printing leaves the file tree alone, however often it is done. -/
theorem tree_fetchAll_onScreen (command : DownloadCommand) (policy : Policy) (readme : String)
    (outDir : Path) (artifacts : List Artifact) (host : Host) :
    (fetchAll (.onScreen command) policy readme outDir artifacts host).1.tree = host.tree := by
  have hlockstep : Lockstep (fun (shown : Host) _ => shown.tree = host.tree)
      (.onScreen command) (.answering command.printed) :=
    { keeps := by
        intro shown _ url dest hshown
        rw [Downloader.onScreen, Downloader.printing]
        cases command.render url dest <;> exact hshown
      agrees := fun shown _ url dest _ => printing_answers _ command shown url dest }
  exact (hlockstep.fetchAll policy readme outDir artifacts (s := host) (t := ()) rfl).1

/-! ## What an order needs -/

/-- Artifacts are selected exactly if every name asked for is that of one. -/
theorem Artifact.select_eq_ok_iff {known chosen : List Artifact} {only : List String} :
    select known only = .ok chosen ↔
      (∀ name ∈ only, ∃ a ∈ known, a.name = name) ∧
        chosen = known.filter fun a => a.IsAsked only := by
  have hfind : (only.find? fun name => !known.any (·.name == name)) = none ↔
      ∀ name ∈ only, ∃ a ∈ known, a.name = name := by simp
  constructor
  · intro h
    refine ⟨hfind.mp ?_, eq_filter_of_select h⟩
    rw [select] at h
    cases hunknown : only.find? fun name => !known.any (·.name == name) with
    | none => rfl
    | some name => simp [hunknown] at h
  · rintro ⟨hnames, rfl⟩
    rw [select, hfind.mpr hnames]
    cases only <;> simp [IsAsked]

theorem readReadme_eq_ok_iff {tree : FileTree} {cwd : Place} {path : Path} {text : String} :
    readReadme tree cwd path = .ok text ↔ tree.readText cwd path = .ok text := by
  rw [readReadme]
  cases tree.readText cwd path <;> simp

namespace Bootstrap.Order

/-- The artifacts that an order chooses from: the standard ones, or those that its manifest can be
read and parsed as. -/
inductive Offers (order : Order) (tree : FileTree) (cwd : Place) : List Artifact → Prop
  | standard (hnone : order.manifest? = none) : Offers order tree cwd Artifact.standard
  | manifest {path : Path} {bytes : Utf8.Bytes} {known : List Artifact}
      (hpath : order.manifest? = some path) (hread : tree.read cwd path = .ok bytes)
      (hparse : Yaml.read Manifest.artifacts bytes = .ok known) : Offers order tree cwd known

/-- Something that the order needs is missing. -/
inductive Lacks (order : Order) (tree : FileTree) (cwd : Place) : Prop
  | manifestUnreadable {path : Path} {fault : Fault} (hpath : order.manifest? = some path)
      (hread : tree.read cwd path = .error fault) : Lacks order tree cwd
  | manifestMalformed {path : Path} {bytes : Utf8.Bytes} {fault : Yaml.Fault}
      (hpath : order.manifest? = some path) (hread : tree.read cwd path = .ok bytes)
      (hparse : Yaml.read Manifest.artifacts bytes = .error fault) : Lacks order tree cwd
  /-- A name that is asked for is that of no artifact. -/
  | unknownArtifact {known : List Artifact} {name : String} (hknown : order.Offers tree cwd known)
      (hname : name ∈ order.only) (hunknown : ∀ a ∈ known, a.name ≠ name) : Lacks order tree cwd
  | readmeUnreadable {fault : Fault} (hreadme : tree.readText cwd order.readme = .error fault) :
      Lacks order tree cwd

/-- All that the order needs is there: the artifacts that are asked for, and the text of the
README. -/
structure Finds (order : Order) (tree : FileTree) (cwd : Place) (chosen : List Artifact)
    (text : String) : Prop where
  /-- The artifacts are those that are asked for, and every name asked for is that of an
  artifact. -/
  chosen : ∃ known, order.Offers tree cwd known ∧
    (∀ name ∈ order.only, ∃ a ∈ known, a.name = name) ∧
    chosen = known.filter fun a => a.IsAsked order.only
  readme : tree.readText cwd order.readme = .ok text

section

variable {order : Order} {tree : FileTree} {cwd : Place} {known chosen : List Artifact}
  {text : String}

/-- The artifacts that an order chooses from, or why they cannot be told. -/
def offered (order : Order) (tree : FileTree) (cwd : Place) : Except FetchError (List Artifact) :=
  match order.manifest? with
  | some path => Manifest.load tree cwd path
  | none => .ok Artifact.standard

theorem offered_eq_ok_iff : order.offered tree cwd = .ok known ↔ order.Offers tree cwd known := by
  constructor
  · intro h
    cases hmanifest : order.manifest? with
    | none =>
        obtain rfl : Artifact.standard = known := by simpa [offered, hmanifest] using h
        exact .standard hmanifest
    | some path =>
        simp only [offered, hmanifest, Manifest.load] at h
        cases hread : tree.read cwd path with
        | error fault => simp [hread] at h
        | ok bytes =>
            cases hparse : Yaml.read Manifest.artifacts bytes with
            | error fault => simp [hread, hparse] at h
            | ok list =>
                obtain rfl : list = known := by simpa [hread, hparse] using h
                exact .manifest hmanifest hread hparse
  · intro h
    cases h with
    | standard hnone => simp only [offered, hnone]
    | manifest hpath hread hparse => simp only [offered, hpath, Manifest.load, hread, hparse]

theorem gather_eq (order : Order) (tree : FileTree) (cwd : Place) :
    order.gather tree cwd = (do
      let known ← order.offered tree cwd
      let artifacts ← Artifact.select known order.only
      let readme ← readReadme tree cwd order.readme
      return (artifacts, readme)) := by
  rw [gather, offered]
  cases order.manifest? <;> rfl

/-- **What is needed is gathered exactly if it is there.** -/
theorem gather_eq_ok_iff :
    order.gather tree cwd = .ok (chosen, text) ↔ order.Finds tree cwd chosen text := by
  simp only [gather_eq, bind_eq_ok_iff, offered_eq_ok_iff, Artifact.select_eq_ok_iff,
    readReadme_eq_ok_iff]
  constructor
  · rintro ⟨known, hknown, picked, ⟨hnames, rfl⟩, readme, hreadme, hpair⟩
    obtain ⟨rfl, rfl⟩ := Prod.mk.inj (Except.ok.inj hpair)
    exact ⟨⟨known, hknown, hnames, rfl⟩, hreadme⟩
  · rintro ⟨⟨known, hknown, hnames, rfl⟩, hreadme⟩
    exact ⟨known, hknown, _, ⟨hnames, rfl⟩, text, hreadme, rfl⟩

theorem Offers.unique {other : List Artifact} (h : order.Offers tree cwd known)
    (hother : order.Offers tree cwd other) : known = other :=
  Except.ok.inj ((offered_eq_ok_iff.mpr h).symm.trans (offered_eq_ok_iff.mpr hother))

theorem Finds.unique {chosen' : List Artifact} {text' : String}
    (h : order.Finds tree cwd chosen text) (h' : order.Finds tree cwd chosen' text') :
    chosen = chosen' ∧ text = text' :=
  Prod.mk.inj (Except.ok.inj ((gather_eq_ok_iff.mpr h).symm.trans (gather_eq_ok_iff.mpr h')))

/-- An order that lacks something does not find everything. -/
theorem Lacks.not_finds (h : order.Lacks tree cwd) : ¬ order.Finds tree cwd chosen text := by
  rintro ⟨⟨known, hknown, hnames, -⟩, hreadme⟩
  cases h with
  | manifestUnreadable hpath hread =>
      cases hknown with
      | standard hnone => simp [hnone] at hpath
      | manifest hpath' hread' _ =>
          obtain rfl := Option.some.inj (hpath.symm.trans hpath')
          simp [hread'] at hread
  | manifestMalformed hpath hread hparse =>
      cases hknown with
      | standard hnone => simp [hnone] at hpath
      | manifest hpath' hread' hparse' =>
          obtain rfl := Option.some.inj (hpath.symm.trans hpath')
          obtain rfl := Except.ok.inj (hread.symm.trans hread')
          simp [hparse'] at hparse
  | unknownArtifact hother hname hunknown =>
      obtain rfl := hknown.unique hother
      obtain ⟨a, ha, hnamed⟩ := hnames _ hname
      exact hunknown a ha hnamed
  | readmeUnreadable hunreadable => simp [hreadme] at hunreadable

/-- What an order does not lack it finds. -/
theorem lacks_or_finds (order : Order) (tree : FileTree) (cwd : Place) :
    order.Lacks tree cwd ∨ ∃ chosen text, order.Finds tree cwd chosen text := by
  by_cases hlacks : order.Lacks tree cwd
  · exact .inl hlacks
  · right
    obtain ⟨known, hknown⟩ : ∃ known, order.Offers tree cwd known := by
      cases hmanifest : order.manifest? with
      | none => exact ⟨_, .standard hmanifest⟩
      | some path =>
          cases hread : tree.read cwd path with
          | error fault => exact absurd (.manifestUnreadable hmanifest hread) hlacks
          | ok bytes =>
              cases hparse : Yaml.read Manifest.artifacts bytes with
              | error fault => exact absurd (.manifestMalformed hmanifest hread hparse) hlacks
              | ok known => exact ⟨known, .manifest hmanifest hread hparse⟩
    have hnames : ∀ name ∈ order.only, ∃ a ∈ known, a.name = name := by
      intro name hname
      by_contra hunknown
      push Not at hunknown
      exact hlacks (.unknownArtifact hknown hname hunknown)
    cases hreadme : tree.readText cwd order.readme with
    | error fault => exact absurd (.readmeUnreadable hreadme) hlacks
    | ok text => exact ⟨_, text, ⟨known, hknown, hnames, rfl⟩, hreadme⟩

/-- **An order lacks something exactly if nothing is gathered.** -/
theorem lacks_iff : order.Lacks tree cwd ↔ ∃ error, order.gather tree cwd = .error error := by
  constructor
  · intro h
    cases hgather : order.gather tree cwd with
    | error error => exact ⟨error, rfl⟩
    | ok gathered => exact absurd (gather_eq_ok_iff.mp hgather) h.not_finds
  · rintro ⟨error, herror⟩
    refine (order.lacks_or_finds tree cwd).resolve_right ?_
    rintro ⟨chosen, text, hfinds⟩
    rw [gather_eq_ok_iff.mpr hfinds] at herror
    cases herror

end

/-! ## What becomes of an order -/

section

variable {order : Order} {host : Host} {cwd : Place}

/-- An order that lacks something ends with its complaint. -/
theorem perform_of_gather_error {error : FetchError}
    (h : order.gather host.tree cwd = .error error) (launch : Launcher Host) :
    order.perform launch cwd host = (host, .error ⟨error.message, error.cause?⟩) := by
  simp only [perform, prepare, h]

/-- A dry run prints its commands and the report. -/
theorem perform_of_dryRun {chosen : List Artifact} {text : String}
    (h : order.gather host.tree cwd = .ok (chosen, text)) (hdry : order.dryRun = true)
    (launch : Launcher Host) :
    order.perform launch cwd host =
      let run := fetchAll (.onScreen order.command) order.policy text order.outDir chosen host
      (run.1.print (reportText run.2), verdict run.2) := by
  simp only [perform, prepare, h, downloader, hdry, if_true]

end

end Bootstrap.Order

theorem conclude_tree (complaint : Failure → String) (host : Host) (result : Except Failure Unit) :
    (conclude complaint host result).1.tree = host.tree := by
  cases result <;> rfl

namespace Bootstrap

section

variable {cwd : Place} {environment : Dict String} {words : List String} {host : Host}
  {order : Order} (horder : Order.read environment words = .ok order)
include horder

/-- An order that lacks something ends with code 1, and nothing has happened but that it
complained. -/
theorem run_of_lacks (hlacks : order.Lacks host.tree cwd) :
    ∃ after : Host, (∀ launch, run launch cwd environment words host = (after, 1)) ∧
      after.tree = host.tree ∧ after.output = host.output := by
  obtain ⟨error, herror⟩ := Order.lacks_iff.mp hlacks
  refine ⟨host.complain (Failure.report ⟨error.message, error.cause?⟩), ?_, rfl, rfl⟩
  intro launch
  simp only [run, horder, Order.perform_of_gather_error herror, conclude]

/-- A dry run that finds everything only prints, and ends with code 0 exactly if each artifact has
an address and there is a command to print for it. -/
theorem run_of_dryRun (hdry : order.dryRun = true) {chosen : List Artifact} {text : String}
    (hfinds : order.Finds host.tree cwd chosen text) :
    ∃ (after : Host) (status : Nat),
      (∀ launch, run launch cwd environment words host = (after, status)) ∧
      after.tree = host.tree ∧
      (status = 0 ↔ (∀ a ∈ chosen, ∃ url, a.address text = .ok url) ∧
        (Text.words order.command.template.toList ≠ [] ∨ chosen = [])) := by
  have hgather := Order.gather_eq_ok_iff.mpr hfinds
  -- what is printed and reported does not mention the launcher
  let shown := fetchAll (.onScreen order.command) order.policy text order.outDir chosen host
  let ended := conclude Failure.report (shown.1.print (Order.reportText shown.2))
    (Order.verdict shown.2)
  refine ⟨ended.1, ended.2, ?_, ?_, ?_⟩
  · intro launch
    simp only [run, horder, Order.perform_of_dryRun hgather hdry]
    rfl
  · rw [conclude_tree, Host.print_tree]
    exact tree_fetchAll_onScreen order.command order.policy text order.outDir chosen host
  · rw [conclude_eq_zero_iff, Order.verdict_eq_ok_iff,
      failures_eq_nil_iff (printing_answers _ order.command)]
    simp only [Artifact.CanBeFetched, DownloadCommand.printed_eq_ok_iff]
    constructor
    · intro hall
      refine ⟨fun a ha => ?_, ?_⟩
      · obtain ⟨url, hurl, -⟩ := hall a ha
        exact ⟨url, hurl⟩
      · cases chosen with
        | nil => exact .inr rfl
        | cons a rest =>
            obtain ⟨url, -, hwords⟩ := hall a List.mem_cons_self
            exact .inl hwords
    · rintro ⟨haddress, hwords⟩ a ha
      obtain ⟨url, hurl⟩ := haddress a ha
      exact ⟨url, hurl, hwords.resolve_right (List.ne_nil_of_mem ha)⟩

end

/-- **What leaves the files alone.** An order for archives lacks something that it needs, or it
finds everything. Where it lacks something, the program ends with code 1, whatever would start the
download commands; it has changed no file and printed nothing. And if the order is a dry run, the
program ends in one way, whatever would start the commands, and has changed no file; where
everything is found, it ends with code 0 exactly if each of the artifacts has an address and the
download command has a word, unless there is no artifact. -/
theorem run_leaves_files (cwd : Place) (environment : Dict String) (words : List String)
    (host : Host) (order : Order) (horder : Order.read environment words = .ok order) :
    (order.Lacks host.tree cwd ∨ ∃ chosen text, order.Finds host.tree cwd chosen text) ∧
    (order.Lacks host.tree cwd →
      ∃ after : Host, (∀ launch, run launch cwd environment words host = (after, 1)) ∧
        after.tree = host.tree ∧ after.output = host.output) ∧
    (order.dryRun = true →
      ∃ (after : Host) (status : Nat),
        (∀ launch, run launch cwd environment words host = (after, status)) ∧
        after.tree = host.tree ∧
        ∀ chosen text, order.Finds host.tree cwd chosen text →
          (status = 0 ↔ (∀ a ∈ chosen, ∃ url, a.address text = .ok url) ∧
            (Text.words order.command.template.toList ≠ [] ∨ chosen = []))) := by
  refine ⟨order.lacks_or_finds host.tree cwd, run_of_lacks horder, fun hdry => ?_⟩
  rcases order.lacks_or_finds host.tree cwd with hlacks | ⟨chosen, text, hfinds⟩
  · obtain ⟨after, hrun, htree, -⟩ := run_of_lacks horder hlacks
    exact ⟨after, 1, hrun, htree, fun _ _ hfinds => absurd hfinds hlacks.not_finds⟩
  · obtain ⟨after, status, hrun, htree, hstatus⟩ := run_of_dryRun horder hdry hfinds
    refine ⟨after, status, hrun, htree, fun chosen' text' hfinds' => ?_⟩
    obtain ⟨rfl, rfl⟩ := hfinds.unique hfinds'
    exact hstatus

/-- An artifact with a short label has an address in every README with a link for it. -/
theorem exists_address_of_linkBehind {a : Artifact} {readme : String} {address before : List Char}
    (hpattern : a.pattern? = none) (hshort : a.label.toList.length ≤ 190)
    (hlink : LinkBehind a.label.toList address before readme.toList) :
    ∃ url, a.address readme = .ok url := by
  have htext : a.linkPattern.toList = Artifact.labelPattern a.label.toList := by
    simp [Artifact.linkPattern, hpattern]
  rw [Artifact.address, htext, readPattern_labelPattern_of_length_le hshort]
  rcases capture?_linkNamed a.label.toList readme.toList with ⟨-, hnone⟩ | ⟨found, hfound, -⟩
  · exact absurd hlink (hnone address before)
  · exact ⟨String.ofList found, by simp only [hfound]⟩

/-- A dry run for one archive. -/
def dryOrder : Order where
  readme := .ofString "README.md"
  outDir := .ofString "out"
  command := .standard
  only := ["llvm"]
  dryRun := true

/-- Without a README that may be read such an order ends with code 1. With one that tells the address
it ends with code 0, and still there is no directory to store the archive in. -/
theorem run_leaves_files_dryOrder :
    let words := ["--dry-run", "--out-dir", "out", "--only", "llvm"]
    let readme := Utf8.ofString "[LLVM-Debian download link](https://box/llvm.gz)"
    let bare : Host := { tree := .empty }
    let closed : Host :=
      { tree := { FileTree.empty with rights := .owner }.put ["README.md"] (.file readme 0o244) }
    let ready : Host := { tree := FileTree.empty.put ["README.md"] (.file readme 0o644) }
    Order.read .empty words = .ok dryOrder ∧
      (∀ host ∈ [bare, closed], dryOrder.Lacks host.tree [] ∧
        ∃ after : Host, (∀ launch, run launch [] .empty words host = (after, 1)) ∧
          after.tree = host.tree ∧ after.output = []) ∧
      ∃ after : Host, (∀ launch, run launch [] .empty words ready = (after, 0)) ∧
        after.tree = ready.tree := by
  intro words readme bare closed ready
  have horder : Order.read .empty words = .ok dryOrder := by decide +kernel
  have hmissing : bare.tree.readText [] dryOrder.readme = .error .notFound := by rfl
  have hdenied : closed.tree.readText [] dryOrder.readme = .error .denied := by rfl
  have hlacks : ∀ host ∈ [bare, closed], dryOrder.Lacks host.tree [] := by
    simp only [List.forall_mem_cons]
    exact ⟨.readmeUnreadable hmissing, .readmeUnreadable hdenied, by simp⟩
  have hfinds : dryOrder.Finds ready.tree [] (Artifact.standard.filter (·.name = "llvm"))
      "[LLVM-Debian download link](https://box/llvm.gz)" :=
    Order.gather_eq_ok_iff.mp (by rfl)
  obtain ⟨-, -, hready⟩ := run_leaves_files [] .empty words ready dryOrder horder
  obtain ⟨after, status, hrun, htree, hstatus⟩ := hready rfl
  have haddressChars : "https://box/llvm.gz".toList.all isAddressChar = true := by decide
  have hlink : LinkBehind "LLVM-Debian download link".toList "https://box/llvm.gz".toList []
      "[LLVM-Debian download link](https://box/llvm.gz)".toList :=
    ⟨by decide, List.all_eq_true.mp haddressChars, [], by decide⟩
  have hzero : status = 0 := by
    refine (hstatus _ _ hfinds).mpr ⟨fun a ha => ?_, .inl (by decide)⟩
    obtain rfl : a = Artifact.standard[1] := by simpa [Artifact.standard] using ha
    exact exists_address_of_linkBehind rfl (by decide) hlink
  subst hzero
  refine ⟨horder, fun host hhost => ?_, after, hrun, htree⟩
  obtain ⟨-, hends, -⟩ := run_leaves_files [] .empty words host dryOrder horder
  obtain ⟨left, hleft, hleftTree, houtput⟩ := hends (hlacks host hhost)
  have hsilent : host.output = [] := by
    have hboth : ∀ host ∈ [bare, closed], host.output = [] := by simp [bare, closed]
    exact hboth host hhost
  exact ⟨hlacks host hhost, left, hleft, hleftTree, houtput.trans hsilent⟩

end Bootstrap

end FirmwareBench
