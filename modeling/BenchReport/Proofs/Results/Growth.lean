import BenchReport.Proofs.Files.Ways
import BenchReport.Proofs.Results.Separation
import Mathlib.Data.List.Forall2

/-!
# Results that stay when a store grows

Results are the newest files with certain names in one folder.  When a store grows and the
files that are written have other names, the same files are found with the same content.
When the folder was missing and comes up meanwhile, there is no result in it.

## Main results

* `ResultFile.newestIn_of_grows`, `SuiteResults.inStore_of_grows` — **the results of a folder
  stay when the store grows.**
* `ResultFile.newestIn_of_missing`, `SuiteResults.inStore_of_missing` — a folder that comes up
  has no results.
-/

namespace BenchReport

variable {own : Location → Prop} {s t : Store} {folder : Path} {location : Location}

namespace Store

/-- An entry that is a file is what stands at the location of its name. -/
theorem node?_of_entry {name : String} {here : Location} {content : ByteArray}
    {modified : Instant} (h : s.entry location name = .ok (.file here content modified)) :
    s.node? (.text name :: location) = some (.file content modified) := by
  rw [entry] at h
  split at h
  · cases h
  · split at h
    · rename_i hnode
      cases h
      exact hnode
    · cases h
    · cases h

/-- What a path into a folder leads to, when that is a file, stands at the location of its
name. -/
theorem exists_node?_of_status_join {name : String} {size : Nat} {modified : Instant}
    (hfolder : s.resolve .look folder = .ok (.folder location)) (hname : '/' ∉ name.toList)
    (hstep : Path.stepOf? name.toList = some (.into name))
    (hlink : ∀ target, s.node? (.text name :: location) ≠ some (.link target))
    (h : s.status (folder.join ⟨name⟩) = .ok (.file size modified)) :
    ∃ content, s.node? (.text name :: location) = some (.file content modified) := by
  obtain ⟨place, hplace, hstatus⟩ := bind_eq_ok.1 h
  rw [resolve_join hfolder hname hstep hlink] at hplace
  obtain ⟨_, -, hentry⟩ := bind_eq_ok.1 hplace
  cases place with
  | folder here => cases hstatus
  | vacant around name => cases hstatus
  | file here content before =>
    obtain ⟨-, rfl⟩ := Status.file.inj (Except.ok.inj hstatus)
    exact ⟨content, node?_of_entry hentry⟩

/-- A path to an entry that is not touched leads there still. -/
theorem Grows.resolve_join_eq {name : String} (grown : s.Grows own t) (hnames : s.WellNamed)
    (hfolder : s.resolve .look folder = .ok (.folder location))
    (hlink : ∀ target, s.node? (.text name :: location) ≠ some (.link target))
    (hstep : Path.stepOf? name.toList = some (.into name))
    (hmem : .text name ∈ s.names location) (hown : ¬ own (.text name :: location)) :
    t.resolve .look (folder.join ⟨name⟩) = s.resolve .look (folder.join ⟨name⟩) := by
  have hslash := hnames.notMem_of_mem_names hmem
  have hnode := (grown.node (.text name :: location)).eq_of_not_own hown (mem_names_iff.1 hmem)
  rw [resolve_join hfolder hslash hstep hlink,
    resolve_join (grown.keepsWays.resolve_folder hfolder) hslash hstep (grown.node?_ne_link hlink),
    entry, entry, hnode]

end Store

namespace ResultFile

variable {key : String}

/-- What has come up in a folder is no result. -/
theorem namedIn_of_vacant (grown : s.Grows own t) (hnames : t.WellNamed)
    (hfolder : t.resolve .look folder = .ok (.folder location)) (hkey : key.toList ≠ [])
    (hown : ∀ text, hasPattern key.toList text.toList = true → ¬ own (.text text :: location))
    {name : FileName} (hmem : name ∈ t.names location)
    (hvacant : s.node? (name :: location) = none) : namedIn folder key t name = none := by
  rw [Option.eq_none_iff_forall_ne_some]
  intro file hfile
  obtain ⟨text, size, rfl, hpattern, hpath, hstatus⟩ := exists_of_namedIn hfile
  rw [hpath] at hstatus
  have hlink : ∀ target, t.node? (.text text :: location) ≠ some (.link target) :=
    grown.node?_ne_link (by simp [hvacant])
  obtain ⟨content, hnode⟩ := Store.exists_node?_of_status_join hfolder
    (hnames.notMem_of_mem_names hmem) (stepOf?_of_hasPattern hpattern hkey) hlink hstatus
  -- a file where nothing was is an own one, and own files have other names
  have hgrown := grown.node (.text text :: location)
  rw [hvacant, hnode] at hgrown
  exact hown text hpattern hgrown.own_of_file

/-- The results of a folder stay. -/
theorem newestIn_of_grows (grown : s.Grows own t) (hnames : s.WellNamed) (hnames' : t.WellNamed)
    (hlinks : s.Linkless folder) (hfolder : s.resolve .look folder = .ok (.folder location))
    (hkey : key.toList ≠ [])
    (hown : ∀ text, hasPattern key.toList text.toList = true → ¬ own (.text text :: location)) :
    newestIn folder key t = newestIn folder key s := by
  obtain ⟨new, hnew, hvacant⟩ := grown.names location
  have hfolder' := grown.keepsWays.resolve_folder hfolder
  have hlist : s.list folder = .ok (s.names location) := by
    rw [Store.list, hfolder]
    rfl
  have hlist' : t.list folder = .ok (t.names location) := by
    rw [Store.list, hfolder']
    rfl
  have hold : (s.names location).filterMap (namedIn folder key t) =
      (s.names location).filterMap (namedIn folder key s) := by
    apply List.filterMap_congr
    intro name hmem
    cases name with
    | raw bytes => rfl
    | text text =>
      simp only [namedIn, FileName.text?]
      by_cases hpattern : hasPattern key.toList text.toList = true
      · have hresolve := grown.resolve_join_eq hnames hfolder
          (fun target => hlinks location (.text text) target hfolder)
          (stepOf?_of_hasPattern hpattern hkey) hmem (hown text hpattern)
        rw [Store.status, Store.status, hresolve]
      · rw [if_neg hpattern, if_neg hpattern]
  have hnone : new.filterMap (namedIn folder key t) = [] := by
    rw [List.filterMap_eq_nil_iff]
    intro name hname
    have hmem : name ∈ t.names location := by
      rw [hnew]
      exact List.mem_append_right _ hname
    exact namedIn_of_vacant grown hnames' hfolder' hkey hown hmem (hvacant name hname)
  rw [newestIn, newestIn, hlist, hlist', hnew]
  simp only [List.filterMap_append, hold, hnone, List.append_nil]

/-- In a folder that is missing there are no results. -/
theorem newestIn_eq_none (hmissing : ∀ location, s.resolve .look folder ≠ .ok (.folder location)) :
    newestIn folder key s = none := by
  rw [Option.eq_none_iff_forall_ne_some]
  intro file hfile
  obtain ⟨location, -, -, hfolder, -⟩ := exists_of_newestIn hfile
  exact hmissing location hfolder

/-- **A folder that comes up has no results**: whatever is in it has come up, too. -/
theorem newestIn_of_missing (grown : s.Grows own t) (hnames : t.WellNamed) (hrooted : s.Rooted)
    (hnew : ∀ location, t.resolve .look folder = .ok (.folder location) →
      s.node? location ≠ some .folder)
    (hkey : key.toList ≠ [])
    (hown : ∀ l text, hasPattern key.toList text.toList = true → ¬ own (.text text :: l)) :
    newestIn folder key t = none := by
  cases hlist : t.list folder with
  | error e => rw [newestIn, hlist]
  | ok names =>
    obtain ⟨place, hfolder, hnames'⟩ := bind_eq_ok.1 hlist
    cases place with
    | file here content modified => cases hnames'
    | vacant around name => cases hnames'
    | folder location =>
      obtain rfl := Except.ok.inj hnames'
      have hnone : (t.names location).filterMap (namedIn folder key t) = [] := by
        rw [List.filterMap_eq_nil_iff]
        intro name hmem
        have hvacant : s.node? (name :: location) = none :=
          Decidable.not_not.1 fun h => hnew location hfolder (hrooted name location h)
        exact namedIn_of_vacant grown hnames hfolder hkey (hown location) hmem hvacant
      rw [newestIn, hlist]
      simp only [hnone, newest?]

end ResultFile

namespace SuiteResults

variable {settings : Settings}

/-- **The results of a suite stay when the store grows.** -/
theorem inStore_of_grows (grown : s.Grows own t) (hnames : s.WellNamed) (hnames' : t.WellNamed)
    (hlinks : s.Linkless settings.resultsFolder)
    (hfolder : s.resolve .look settings.resultsFolder = .ok (.folder location)) (suite : Suite)
    (hown : ∀ text, ResultFile.hasPattern suite.key.toList text.toList = true →
      ¬ own (.text text :: location)) :
    inStore settings t suite = inStore settings s suite := by
  have hkey := suite.key_toList_ne_nil
  have hfile := ResultFile.newestIn_of_grows grown hnames hnames' hlinks hfolder hkey hown
  have hrecords : (ResultFile.newestIn settings.resultsFolder suite.key s).map
      (fun f => Record.inFile settings.maxFileSize t f.path) =
      (ResultFile.newestIn settings.resultsFolder suite.key s).map
        fun f => Record.inFile settings.maxFileSize s f.path := by
    apply Option.map_congr
    intro found hfound
    obtain ⟨here, text, size, hhere, hmem, hpattern, hpath, -⟩ :=
      ResultFile.exists_of_newestIn hfound
    obtain rfl := Store.Place.folder.inj (Except.ok.inj (hfolder.symm.trans hhere))
    have hresolve := grown.resolve_join_eq hnames hfolder
      (fun target => hlinks location (.text text) target hfolder)
      (ResultFile.stepOf?_of_hasPattern hpattern hkey) hmem (hown text hpattern)
    rw [Record.inFile, Record.inFile, Record.itemsIn, Record.itemsIn, Store.status, Store.status,
      Store.read, Store.read, hpath, hresolve]
  rw [inStore, inStore, hfile, hrecords]

/-- The suite has no results, before and after the folder comes up. -/
theorem inStore_of_missing (grown : s.Grows own t) (hnames : t.WellNamed) (hrooted : s.Rooted)
    (hmissing : ∀ location, s.resolve .look settings.resultsFolder ≠ .ok (.folder location))
    (hnew : ∀ location, t.resolve .look settings.resultsFolder = .ok (.folder location) →
      s.node? location ≠ some .folder) (suite : Suite)
    (hown : ∀ l text, ResultFile.hasPattern suite.key.toList text.toList = true →
      ¬ own (.text text :: l)) :
    inStore settings t suite = inStore settings s suite := by
  have hbefore : ResultFile.newestIn settings.resultsFolder suite.key s = none :=
    ResultFile.newestIn_eq_none hmissing
  have hafter := ResultFile.newestIn_of_missing grown hnames hrooted hnew
    suite.key_toList_ne_nil hown
  rw [inStore, inStore, hbefore, hafter, Option.map_none, Option.map_none]

end SuiteResults

end BenchReport
