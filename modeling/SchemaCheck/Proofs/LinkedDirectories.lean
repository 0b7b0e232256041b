import SchemaCheck.Proofs.Reingestion

/-! Directories behind links. A path that leads to a directory is handed over only where it is itself a link
and links are not followed; then it can only fail, since a directory holds no document. -/
namespace SchemaCheck

namespace Path

theorem joinExtends (p name : String) : ∃ rest, join p name = p ++ rest := by
  unfold join
  split
  · exact ⟨name,rfl⟩
  · exact ⟨"/" ++ name,String.append_assoc ..⟩

theorem joinAbsolute {p : String} (given : p ≠ "") (name : String) :
    isAbsolute (join p name) = isAbsolute p := by
  obtain ⟨rest,same⟩ := joinExtends p name
  cases spelled : p.toList with
  | nil => exact absurd (String.toList_eq_nil_iff.mp spelled) given
  | cons c cs =>
    rw [same,Bool.eq_iff_iff,isAbsolute,isAbsolute,startsWithSlash,startsWithSlash]
    simp [spelled]

end Path

namespace FileTree
open FileNode SchemaCheck.Path

theorem goSplit (t : FileTree) (links : Nat) (here : Location) (xs : List String) {ys : List String}
    (more : ys ≠ []) :
    (∃ e, ∀ follow, t.go follow links here (xs ++ ys) = .error e) ∨
    ∃ left mid, t.go true links here xs = .ok mid ∧
      ∀ follow, t.go follow links here (xs ++ ys) = t.go follow left mid ys := by
  -- A link spends one of those left, so that the steps that it stands for may be more than it replaces.
  induction links using Nat.strongRecOn generalizing here xs with
  | ind links fewer =>
    induction xs generalizing here with
    | nil => exact Or.inr ⟨links,here,by rw [go],fun _ => rfl⟩
    | cons x rest ih =>
      have open' : (rest ++ ys).isEmpty = false := by simp [more]
      simp only [List.cons_append]
      simp only [go]
      split
      · rename_i entries inside
        split
        · exact ih here
        · split
          · exact ih here.dropLast
          · split
            · exact Or.inl ⟨_,fun _ => rfl⟩
            · split
              · exact Or.inl ⟨_,fun _ => rfl⟩
              · rename_i target found
                simp only [open',Bool.false_and,Bool.false_eq_true,if_false,Bool.not_true,Bool.and_false]
                cases links with
                | zero => exact Or.inl ⟨_,fun _ => rfl⟩
                | succ links =>
                  simp only [← List.append_assoc]
                  exact fewer links (Nat.lt_succ_self _) _ _
              · exact ih (here ++ [x])
      · exact Or.inl ⟨_,fun _ => rfl⟩

theorem goNamed {t : FileTree} {left : Nat} {mid place : Location} {x : String} (notCurrent : x ≠ ".")
    (notParent : x ≠ "..") (went : t.go true left mid [x] = .ok place) :
    ∃ entries m, t.root.at? mid = some (.directory entries) ∧ Entries.get? x entries = some m ∧
      t.go false left mid [x] = .ok (mid ++ [x]) ∧ (m.isLink = false → place = mid ++ [x]) := by
  rw [go] at went
  split at went
  · rename_i entries inside
    simp only [notCurrent,notParent,if_false] at went
    split at went
    · contradiction
    · rename_i fits
      have own : ∀ m, Entries.get? x entries = some m → t.go false left mid [x] = .ok (mid ++ [x]) := by
        intro m found
        rw [go,inside]
        simp only [notCurrent,notParent,fits,if_false,found]
        cases m <;> simp [go]
      split at went
      · contradiction
      · rename_i target found
        exact ⟨entries,_,inside,found,own _ found,fun plain => by simp [isLink] at plain⟩
      · rename_i m _ found
        rw [go] at went
        cases went
        exact ⟨entries,m,inside,found,own m found,fun _ => rfl⟩
  · contradiction

theorem goDots {t : FileTree} {left : Nat} {mid : Location} {x : String} (dots : x = "." ∨ x = "..")
    (follow : Bool) : t.go follow left mid [x] = t.go true left mid [x] := by
  rw [go,go]
  rcases dots with rfl | rfl <;> simp [go]

theorem childAt {t : FileTree} {mid : Location} {entries : List (String × FileNode)} {x : String}
    {m : FileNode} (inside : t.root.at? mid = some (.directory entries))
    (found : Entries.get? x entries = some m) : t.root.at? (mid ++ [x]) = some m := by
  rw [atAppend,inside,Option.bind_some]
  exact Option.bind_eq_some_iff.mpr ⟨m,found,rfl⟩

theorem findUnfollowed {t : FileTree} {path : String} {place : Location} {n : FileNode}
    (found : t.find true path = .ok (place,n)) :
    ∃ own m, t.find false path = .ok (own,m) ∧ (m.isLink = false → place = own ∧ n = m) := by
  obtain ⟨spelled,went,inside⟩ := findExact.mp found
  obtain ⟨before,x,split,_⟩ := stepsLast path spelled.1
  rw [split] at went
  rcases t.goSplit linkLimit (start path t.working) before (List.cons_ne_nil x [])
    with ⟨e,failed⟩ | ⟨left,mid,_,onward⟩
  · cases (failed true).symm.trans went
  · rw [onward] at went
    have unfollowed : ∀ {own m}, t.go false left mid [x] = .ok own → t.root.at? own = some m →
        t.find false path = .ok (own,m) := fun stays at' =>
      findExact.mpr ⟨spelled,split ▸ (onward false).trans stays,at'⟩
    by_cases dots : x = "." ∨ x = ".."
    · exact ⟨place,n,unfollowed ((goDots dots false).trans went) inside,fun _ => ⟨rfl,rfl⟩⟩
    · obtain ⟨notCurrent,notParent⟩ := not_or.mp dots
      obtain ⟨entries,m,directory,entry,stays,same⟩ := goNamed notCurrent notParent went
      refine ⟨mid ++ [x],m,unfollowed stays (childAt directory entry),fun unlinked => ?_⟩
      obtain rfl := same unlinked
      exact ⟨rfl,Option.some.inj (inside.symm.trans (childAt directory entry))⟩

theorem stepsJoin {path name : String} (given : path ≠ "") (proper : ProperName name) :
    Undotted (steps path ++ [name]) (steps (join path name)) := by
  have slash : "/".toList = ['/'] := rfl
  have last : steps (join path name) = (parts (join path name)).filter (· ≠ "") :=
    if_neg (joinedNamed path proper).open.2
  rw [last]
  by_cases closed : path.endsWith "/" = true
  · obtain ⟨before,spelled⟩ := endsWithSlash.mp closed
    have own : parts path = splitFrom [] before ++ [""] := partsSlash before (by simp [spelled]) (by decide)
    have joined : parts (join path name) = splitFrom [] before ++ [name] :=
      partsSlash before (by simp [join,closed,spelled]) proper.flat
    rw [joined,steps,if_pos closed,own]
    simpa [List.filter_append,proper.nonempty] using
      Undotted.append ((splitFrom [] before).filter (· ≠ "")) (.dot (.step name .nil))
  · have joined : parts (join path name) = parts path ++ [name] :=
      partsSlash path.toList (by simp [join,closed,given,slash]) proper.flat
    rw [joined,steps,if_neg closed]
    simpa [List.filter_append,proper.nonempty] using
      Undotted.append ((parts path).filter (· ≠ "")) (.step name .nil)

theorem findJoined {t : FileTree} {path name : String} {place : Location} {n : FileNode}
    (given : path ≠ "") (proper : ProperName name) (found : t.find true (join path name) = .ok (place,n)) :
    ∃ mid entries m, t.find true path = .ok (mid,.directory entries) ∧ Entries.get? name entries = some m ∧
      t.find false (join path name) = .ok (mid ++ [name],m) ∧
      (m.isLink = false → place = mid ++ [name] ∧ n = m) := by
  obtain ⟨spelled,went,inside⟩ := findExact.mp found
  obtain ⟨rest,extended⟩ := joinExtends path name
  have shorter : path ≠ "" ∧ '\x00' ∉ path.toList ∧ path.utf8ByteSize < pathLimit := by
    refine ⟨given,fun nul => spelled.2.1 ?_,Nat.lt_of_le_of_lt (joinSize path name) spelled.2.2⟩
    simp [extended,nul]
  have whole : ∀ follow, t.go follow linkLimit (start (join path name) t.working) (steps (join path name)) =
      t.go follow linkLimit (start path t.working) (steps path ++ [name]) := by
    intro follow
    rw [start,joinAbsolute given,goUndotted (stepsJoin given proper),start]
  rw [whole] at went
  rcases t.goSplit linkLimit (start path t.working) (steps path) (List.cons_ne_nil name [])
    with ⟨e,failed⟩ | ⟨left,mid,reached,onward⟩
  · cases (failed true).symm.trans went
  · rw [onward] at went
    obtain ⟨entries,m,directory,entry,stays,same⟩ := goNamed proper.notCurrent proper.notParent went
    refine ⟨mid,entries,m,findExact.mpr ⟨shorter,reached,directory⟩,entry,?_,fun unlinked => ?_⟩
    · exact findExact.mpr ⟨spelled,((whole false).trans (onward false)).trans stays,childAt directory entry⟩
    · obtain rfl := same unlinked
      exact ⟨rfl,Option.some.inj (inside.symm.trans (childAt directory entry))⟩

def LeadsToDirectory (t : FileTree) (path : String) : Prop :=
  ∃ place entries, t.find true path = .ok (place,.directory entries)

def IsLink (t : FileTree) (path : String) : Prop :=
  ∃ place target, t.find false path = .ok (place,.link target)

def DirectoriesLinked (t : FileTree) (o : WalkOptions) (xs : Listing) : Prop :=
  ∀ f, .ok f ∈ xs → t.LeadsToDirectory f.path → o.followLinks = false ∧ t.IsLink f.path

theorem DirectoriesLinked.nothing {t : FileTree} {o : WalkOptions} : t.DirectoriesLinked o [] :=
  fun _ member => absurd member List.not_mem_nil

theorem DirectoriesLinked.listed {t : FileTree} {o : WalkOptions} {path : String} {isLink : Bool}
    (linked : t.LeadsToDirectory path → o.followLinks = false ∧ t.IsLink path) :
    t.DirectoriesLinked o (listed path isLink) := by
  intro f member
  cases List.mem_singleton.mp member
  exact linked

theorem DirectoriesLinked.failed {t : FileTree} {o : WalkOptions} (e : WalkError) :
    t.DirectoriesLinked o [.error e] := by
  intro f member
  cases List.mem_singleton.mp member

def OnlyAt (t : FileTree) (path : String) (here : Location) : Prop :=
  ∀ place n, t.find true path = .ok (place,n) → place = here

theorem OnlyAt.found {t : FileTree} {path : String} {place : Location} {n : FileNode}
    (found : t.find true path = .ok (place,n)) : t.OnlyAt path place := by
  intro other m again
  cases found.symm.trans again
  rfl

theorem leadsElsewhere {t : FileTree} {path : String} {x : Location × FileNode}
    (found : t.find true path = .ok x) (other : ∀ place entries, x = (place,.directory entries) → False) :
    ¬ t.LeadsToDirectory path := by
  intro leads
  obtain ⟨place,entries,directory⟩ := leads
  exact other place entries (Except.ok.inj (found.symm.trans directory))

theorem entryUnlinked {t : FileTree} {path name : String} {here place : Location}
    {entries : List (String × FileNode)} {n m : FileNode} (given : path ≠ "") (proper : ProperName name)
    (only : t.OnlyAt path here) (inside : t.root.at? here = some (.directory entries))
    (entry : Entries.get? name entries = some m)
    (found : t.find true (join path name) = .ok (place,n)) :
    t.find false (join path name) = .ok (here ++ [name],m) ∧
      (m.isLink = false → place = here ++ [name] ∧ n = m) := by
  obtain ⟨mid,others,own,above,other,unfollowed,same⟩ := findJoined given proper found
  obtain rfl := only _ _ above
  cases inside.symm.trans (findAt above).2
  cases entry.symm.trans other
  exact ⟨unfollowed,same⟩

theorem listEntryLinked {t : FileTree} {o : WalkOptions} {enter : String → Location → Open → Listing}
    {path name : String} {here : Location} {entries : List (String × FileNode)} {m : FileNode}
    (given : path ≠ "") (proper : ProperName name) (only : t.OnlyAt path here) (above : Open)
    (inside : t.root.at? here = some (.directory entries)) (entry : Entries.get? name entries = some m)
    (entered : ∀ place, t.OnlyAt (join path name) place →
      t.DirectoriesLinked o (enter (join path name) place above)) :
    t.DirectoriesLinked o (t.listEntry o enter (join path name) here above name m) := by
  have own : ∀ place n, t.find true (join path name) = .ok (place,n) →
      t.find false (join path name) = .ok (here ++ [name],m) ∧
        (m.isLink = false → place = here ++ [name] ∧ n = m) :=
    fun _ _ => entryUnlinked given proper only inside entry
  cases m with
  | file content =>
    refine .listed fun leads => ?_
    obtain ⟨place,below,found⟩ := leads
    cases ((own _ _ found).2 rfl).2
  | directory below =>
    simp only [listEntry]
    split
    · exact .nothing
    · exact entered _ fun place n found => ((own place n found).2 rfl).1
  | link target =>
    simp only [listEntry]
    split
    · rename_i unfollowed
      refine .listed fun leads => ?_
      obtain ⟨place,below,found⟩ := leads
      exact ⟨by simpa using unfollowed,_,target,(own _ _ found).1⟩
    · split
      · exact .failed _
      · rename_i found
        split
        · exact .failed _
        · split
          · exact .nothing
          · exact entered _ (.found found)
      · rename_i other found
        exact .listed fun leads => absurd leads (leadsElsewhere found other)

theorem listDirectoryLinked {t : FileTree} (proper : t.root.Proper) (o : WalkOptions) (levels : Nat)
    {path : String} {here : Location} (given : path ≠ "") (only : t.OnlyAt path here) (above : Open) :
    t.DirectoriesLinked o (t.listDirectory o levels path here above) := by
  induction levels generalizing path here above with
  | zero => exact .nothing
  | succ levels ih =>
    rw [listDirectory]
    split
    · exact .failed _
    · split
      · rename_i entries inside
        intro f member
        obtain ⟨⟨name,n⟩,entry,listed⟩ := List.mem_flatMap.mp member
        cases proper.at inside with
        | directory ordered named below =>
          have joined := (joinedNamed path (named _ entry)).open.1
          exact listEntryLinked given (named _ entry) only _ inside ((Entries.getMember ordered).mpr entry)
            (fun place only => ih joined only _) f listed
      · exact .nothing

theorem onlyUnlinked {t : FileTree} {path : String} {own : Location} {m : FileNode}
    (found : t.find false path = .ok (own,m)) (unlinked : m.isLink = false) {place : Location} {n : FileNode}
    (followed : t.find true path = .ok (place,n)) : place = own ∧ n = m := by
  obtain ⟨_,_,again,same⟩ := findUnfollowed followed
  cases found.symm.trans again
  exact same unlinked

theorem walkLinked {t : FileTree} (proper : t.root.Proper) (o : WalkOptions) (path : String) :
    t.DirectoriesLinked o (t.walk o path) := by
  have entered : ∀ {follow place n}, t.find follow path = .ok (place,n) → t.OnlyAt path place →
      t.DirectoriesLinked o (t.listDirectory o (t.root.directories + 1) path place []) :=
    fun found only => listDirectoryLinked proper o _ (findExact.mp found).1.1 only []
  unfold walk
  split
  · exact .failed _
  · rename_i found
    refine .listed fun leads => ?_
    obtain ⟨place,entries,directory⟩ := leads
    cases (onlyUnlinked found rfl directory).2
  · rename_i found
    exact entered found fun place n followed => (onlyUnlinked found rfl followed).1
  · rename_i own target link
    split
    · exact .failed _
    · rename_i found
      split
      · exact entered found (.found found)
      · rename_i unfollowed
        intro f member
        rcases List.mem_append.mp member with itself | below
        · refine DirectoriesLinked.listed (fun _ => ?_) f itself
          exact ⟨by simpa using unfollowed,own,target,link⟩
        · exact entered found (.found found) f below
    · rename_i other found
      exact .listed fun leads => absurd leads (leadsElsewhere found other)

theorem directoryUnread {t : FileTree} {path : String} (leads : t.LeadsToDirectory path) (r : Registry) :
    ∃ cause, t.ingest path r = (r,[.unsupportedFile cause]) := by
  obtain ⟨place,entries,found⟩ := leads
  cases format : SourceFormat.ofPath? path with
  | none => exact ⟨none,ingestUnread (by simp only [readDocument,format]) r⟩
  | some known =>
    have unread : t.read path = .error .isDirectory := by
      rw [FileTree.read,found]
      rfl
    exact ⟨some (.io .isDirectory),ingestUnread (by simp only [readDocument,format,unread]) r⟩

end FileTree

theorem FileFaults.lastFailed {path : String} {rows : List (String × List Fault)}
    {row : String × List Fault} (member : row ∈ rows) (key : Path.SameKey path row.1) (failed : row.2 ≠ []) :
    ∃ faults, Last path faults rows := by
  induction rows generalizing row with
  | nil => simp at member
  | cons head rest ih =>
    by_cases again : ∃ other ∈ rest, Path.SameKey path other.1 ∧ other.2 ≠ []
    · obtain ⟨other,later,same,failing⟩ := again
      exact (ih later same failing).imp fun _ => .later
    · rcases List.mem_cons.mp member with rfl | later
      · refine ⟨row.2,.here key failed fun other later same => ?_⟩
        exact not_not.mp fun failing => again ⟨other,later,same,failing⟩
      · exact absurd ⟨row,later,key,failed⟩ again

namespace Loader
open SchemaCheck.Path FileTree FileNode

theorem handedLinked {t : FileTree} (proper : t.root.Proper) {l : Loader} {sources : List String}
    {path : String} (handed : path ∈ l.handed t sources) :
    l.filter.accepts (FoundFile.name ⟨path,true⟩) = true ∧
      (t.LeadsToDirectory path → l.followLinks = false ∧ t.IsLink path) := by
  obtain ⟨x,found,accepted⟩ := List.mem_filterMap.mp handed
  obtain ⟨source,_,visited⟩ := List.mem_flatMap.mp found
  unfold visit at visited
  split at visited
  · obtain ⟨e,listed,rfl⟩ := List.mem_map.mp visited
    cases e with
    | error e => contradiction
    | ok f =>
      obtain ⟨accepting,same⟩ := Option.ite_none_right_eq_some.mp accepted
      cases same
      exact ⟨accepting,walkLinked proper l.options source f listed⟩
  · cases List.mem_singleton.mp visited
    contradiction

theorem linkedSource {t : FileTree} {l : Loader} {sources : List String} {source : String}
    (given : source ∈ sources) (leads : t.LeadsToDirectory source) (linked : t.IsLink source)
    (unfollowed : l.followLinks = false) (accepted : l.filter.accepts (FoundFile.name ⟨source,true⟩) = true) :
    source ∈ l.handed t sources := by
  obtain ⟨place,entries,found⟩ := leads
  obtain ⟨own,target,link⟩ := linked
  have present : t.exists? source = true := existsFound.mpr ⟨place,_,found⟩
  have listed : .ok ⟨source,true⟩ ∈ t.walk l.options source := by
    simp [walk,link,found,options,unfollowed,FileTree.listed]
  have visited : .ok ⟨source,true⟩ ∈ l.visit t source := by
    rw [visit,if_pos present]
    exact List.mem_map.mpr ⟨_,listed,rfl⟩
  refine List.mem_filterMap.mpr ⟨_,List.mem_flatMap.mpr ⟨source,given,visited⟩,?_⟩
  exact if_pos accepted

theorem loadedFiles (l : Loader) (t : FileTree) (sources : List String) (r : Registry) :
    (l.load t sources r).2.files = (l.handed t sources).length := by
  have counted := congrArg List.length (t.ingestedPaths (l.handed t sources) r)
  rw [List.length_map] at counted
  rw [loadAfter,← counted]
  exact Nat.zero_add _

/-- Of the paths that a load hands over, one leads to a directory only where it is a link and links are not
followed: it is counted, adds nothing and is reported as unsupported. A source is such a path if its name is
accepted. -/
theorem linkedDirectoriesHanded {t : FileTree} (proper : t.root.Proper) (l : Loader) (sources : List String)
    (r : Registry) :
    (l.load t sources r).2.files = (l.handed t sources).length ∧
    (∀ path ∈ l.handed t sources, t.LeadsToDirectory path →
      l.followLinks = false ∧ t.IsLink path ∧
      (∀ s, ∃ cause, t.ingest path s = (s,[.unsupportedFile cause])) ∧
      ∃ faults, (l.load t sources r).2.fileFaults.get? path = some faults) ∧
    ∀ source ∈ sources, t.LeadsToDirectory source → t.IsLink source →
      (source ∈ l.handed t sources ↔
        l.followLinks = false ∧ l.filter.accepts (FoundFile.name ⟨source,true⟩) = true) := by
  refine ⟨l.loadedFiles t sources r,?_,?_⟩
  · intro path handed leads
    obtain ⟨unfollowed,linked⟩ := (handedLinked proper handed).2 leads
    refine ⟨unfollowed,linked,directoryUnread leads,?_⟩
    rw [← t.ingestedPaths (l.handed t sources) r] at handed
    obtain ⟨row,member,rfl⟩ := List.mem_map.mp handed
    obtain ⟨s,_,reported⟩ := ingestedRow member
    obtain ⟨cause,unread⟩ := directoryUnread leads s
    have failed : row.2 ≠ [] := by simp [reported,unread]
    obtain ⟨faults,last⟩ := FileFaults.lastFailed member rfl failed
    exact ⟨faults,(loadFaults l t sources r row.1 faults).mpr last⟩
  · intro source given leads linked
    constructor
    · intro handed
      obtain ⟨accepted,directory⟩ := handedLinked proper handed
      exact ⟨(directory leads).1,accepted⟩
    · intro taken
      exact linkedSource given leads linked taken.1 taken.2

def linkTree : FileTree :=
  { root := .directory [("d",.directory [("a.json",.file unnamed)]),("l",.link "d")] }

theorem linkProper : linkTree.root.Proper := by
  refine .directory (by decide) (by decide) fun e member => ?_
  rcases List.mem_pair.mp member with rfl | rfl
  · exact .directory (by decide) (by decide) <| List.forall_mem_singleton.mpr <| .file _
  · exact .link _

theorem linkSpelled : join "l" "a.json" = "l/a.json" ∧ ¬ SameKey "l" "l/a.json" := by decide +kernel

theorem linkFound :
    linkTree.find true "l" = .ok (["d"],.directory [("a.json",.file unnamed)]) ∧
    linkTree.find false "l" = .ok (["l"],.link "d") := by
  have link : ProperName "l" := by decide
  have target : ProperName "d" := by decide
  have short : ¬ nameLimit < "l".utf8ByteSize ∧ ¬ nameLimit < "d".utf8ByteSize := by decide
  constructor <;> refine findExact.mpr ⟨by decide,?_,rfl⟩ <;> rw [stepsNamed link] <;>
    simp [start,nameRelative link,nameRelative target,stepsNamed target,go,linkTree,at?,Entries.get?,short,
      linkLimit]

theorem linkHanded : ({} : Loader).handed linkTree ["l"] = ["l","l/a.json"] := by
  have present : linkTree.exists? "l" = true := existsFound.mpr ⟨_,_,linkFound.1⟩
  have listed : linkTree.walk ({} : Loader).options "l" = [.ok ⟨"l",true⟩,.ok ⟨"l/a.json",false⟩] := by
    have opened : ¬ pathLimit ≤ "l".utf8ByteSize := by decide
    simp only [walk,linkFound,listDirectory,opened,if_false]
    simp [linkTree,at?,child?,Entries.get?,listEntry,FileTree.listed,linkSpelled.1,options]
  rw [handed,found,List.flatMap_singleton,visit,if_pos present,listed]
  rfl

/- There is one file below the source, but two are counted, and the source has faults of its own. -/
theorem linkTaken :
    linkTree.find true "l" = .ok (["d"],.directory [("a.json",.file unnamed)]) ∧
    ({} : Loader).handed linkTree ["l"] = ["l","l/a.json"] ∧
    (({} : Loader).load linkTree ["l"] {}).2.files = 2 ∧
    (({} : Loader).load linkTree ["l"] {}).2.fileFaults.get? "l" = some [.unsupportedFile none] := by
  have format : SourceFormat.ofPath? "l" = none := by
    rw [SourceFormat.ofPath?,nameExtension (by decide)]
    rfl
  have unread : linkTree.readDocument "l" = .error (.unsupportedFile none) := by
    simp only [readDocument,format]
  have reported : ({} : Loader).reports linkTree ["l"] {} =
      [("l",[.unsupportedFile none]),("l/a.json",(linkTree.ingest "l/a.json" {}).2)] := by
    simp only [reports,linkHanded,ingestAll,ingestUnread unread]
  refine ⟨linkFound.1,linkHanded,?_,?_⟩
  · rw [loadedFiles,linkHanded]
    rfl
  · rw [loadFaults,reported]
    exact .here rfl (by simp) (by simp [linkSpelled.2])

theorem linkReported : linkTree.root.Proper ∧ "l" ∈ ({} : Loader).handed linkTree ["l"] ∧
    linkTree.LeadsToDirectory "l" ∧ linkTree.IsLink "l" ∧
    (∃ cause, linkTree.ingest "l" {} = ({},[.unsupportedFile cause])) ∧
    ∃ faults, (({} : Loader).load linkTree ["l"] {}).2.fileFaults.get? "l" = some faults := by
  have leads : linkTree.LeadsToDirectory "l" := ⟨_,_,linkFound.1⟩
  obtain ⟨_,directories,sources⟩ := linkedDirectoriesHanded linkProper {} ["l"] {}
  have handed := (sources "l" (by simp) leads ⟨_,_,linkFound.2⟩).mpr ⟨rfl,rfl⟩
  obtain ⟨_,linked,unread,faults⟩ := directories "l" handed leads
  exact ⟨linkProper,handed,leads,linked,unread {},faults⟩

end Loader
end SchemaCheck
