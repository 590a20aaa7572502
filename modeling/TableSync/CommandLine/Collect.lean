import TableSync.CommandLine.Arguments
import TableSync.CommandLine.Fault
import TableSync.Config.SyncProperties

/-!
# Collecting properties

The properties of a run come from files, from single assignments and from options of their own, in
this order; later ones win.
-/

namespace TableSync.CommandLine

open TableSync.Config TableSync.Document TableSync.Files TableSync.Text

def readAssignment (item : Text) : Except ConfigError (Text × Text) :=
  match cut? (.char '=') item with
  | some (key, value) =>
      if isBlankText key then .error (.malformedAssignment item) else .ok (strip key, value)
  | none => .error (.malformedAssignment item)

/-- The properties of several files, one above the other. -/
def withSources (files : FileSystem) (bag : PropertyBag Text) :
    List String → Except Fault (PropertyBag Text)
  | [] => .ok bag
  | source :: rest =>
      match loadProperties files source with
      | .ok properties => withSources files (bag.update properties) rest
      | .error e => .error (.load e)

theorem withSources_cons (files : FileSystem) (bag : PropertyBag Text) (source : String)
    (rest : List String) :
    withSources files bag (source :: rest) =
      match loadProperties files source with
      | .ok properties => withSources files (bag.update properties) rest
      | .error e => .error (.load e) := by
  rfl

/-- Properties with several assignments. -/
def withAssignments (bag : PropertyBag Text) :
    List String → Except Fault (PropertyBag Text)
  | [] => .ok bag
  | item :: rest =>
      match readAssignment item with
      | .ok (key, value) => withAssignments (bag.insert key value) rest
      | .error e => .error (.config e)

/-- The properties that options of their own set, in the order in which they are set. -/
def optionProperties (a : Arguments) : List (Text × Option Text) :=
  let text (value? : Option String) : Option Text := value?.map Text.ofString
  let flag (b : Bool) : Option Text := if b then some (writeFlag true) else none
  let fields : Option Text :=
    if a.partitionedBy = [] then none
    else some (Text.joined "," (a.partitionedBy.map Text.ofString))
  [(databaseKey, text a.database?), (tableKey, text a.table?),
    (basePathKey, text a.basePath?), (baseFileFormatKey, text a.baseFileFormat?),
    (partitionFieldsKey, fields), (extractorClassKey, text a.extractor?),
    (assumeDateKey, flag a.assumeDate), (decodeKey, flag a.decode)]

def withOptions (bag : PropertyBag Text) (settings : List (Text × Option Text)) :
    PropertyBag Text :=
  bag.insertAll (settings.filterMap fun setting => setting.2.map fun value => (setting.1, value))

/-- The properties of a run. -/
def collectProperties (files : FileSystem) (a : Arguments) : Except Fault (PropertyBag Text) := do
  let bag ← withSources files .empty a.sources
  let bag ← withAssignments bag a.assignments
  return withOptions bag (optionProperties a)

end TableSync.CommandLine
