import TableSync.Proofs.CommandLine.Stages
import TableSync.Proofs.Text.JsonRoundTrip
import TableSync.Proofs.Text.Lines

/-!
# The framing of paths and results

Paths come in as the lines of a text and results go out as lines of JSON, and neither way is
anything lost: the paths that are taken up are the lines that are not blank, just as they are, and
the lines that are written can be told apart and read back.
-/

namespace TableSync.CommandLine

open TableSync.Config TableSync.Partition TableSync.Files TableSync.Text

/-! ## Paths -/

/-- The bytes from which a run reads its paths. -/
inductive PathsFrom (files : FileSystem) (input : Input) (a : Arguments) (content : List UInt8) :
    Prop
  | input (unnamed : a.pathsFile = "") (h : input = .bytes content)
  | file (named : a.pathsFile ≠ "") (h : openFile files a.pathsFile = .ok content)

theorem isBlankText_ofList (line : List Char) :
    isBlankText (Text.ofString (String.ofList line)) = line.all isBlank := by
  unfold isBlankText Text.ofString Text.ofChars
  rw [String.toList_ofList, List.all_map]
  rfl

theorem pathsOf_encode (text : List Char) :
    pathsOf (Utf8.encode text) = .ok ((fullLines text).map String.ofList) := by
  unfold pathsOf fullLines
  rw [Utf8.decode?_encode]
  simp only [List.filter_map, Function.comp_def, isBlankText_ofList]

/-- The paths of a run are the lines of its text. -/
theorem readPaths_of_laysOut {files : FileSystem} {input : Input} {a : Arguments}
    {text : List Char} {paths : List String} (hfrom : PathsFrom files input a (Utf8.encode text))
    (htext : LaysOut (paths.map String.toList) text) : readPaths files input a = .ok paths := by
  have hpaths : pathsOf (Utf8.encode text) = .ok paths := by
    rw [pathsOf_encode, fullLines_of_laysOut htext, List.map_map]
    simp [Function.comp_def]
  unfold readPaths
  cases hfrom with
  | input unnamed h =>
      rw [if_pos unnamed, h]
      exact hpaths
  | file named h =>
      rw [if_neg named, h]
      exact hpaths

/-! ## Results -/

def printed (results : List PartitionValues) : List Char :=
  results.flatMap fun v => (resultLine v).toList

/-- What a line says of a result. -/
def record (v : PartitionValues) : JsonValue :=
  .object [("partition_path", .string v.path),
    ("values", .list (v.values.map fun value => .string (Text.ofString value)))]

theorem record_inj {v v' : PartitionValues} (h : record v = record v') : v = v' := by
  obtain ⟨path, values⟩ := v
  obtain ⟨path', values'⟩ := v'
  simp only [record, JsonValue.object.injEq, List.cons.injEq, Prod.mk.injEq,
    JsonValue.string.injEq, JsonValue.list.injEq, Text.ofString_inj, and_true, true_and] at h
  obtain ⟨rfl, hvalues⟩ := h
  obtain rfl : values = values' := by
    refine (List.map_inj_right fun value value' h => ?_).mp hvalues
    exact Text.ofString_inj.mp (JsonValue.string.inj h)
  rfl

/-- The line of a result, without its end. -/
def resultObject (v : PartitionValues) : String :=
  jsonLine [("partition_path", .string v.path), ("values", .list (v.values.map Text.ofString))]

theorem toList_resultLine (v : PartitionValues) :
    (resultLine v).toList = (resultObject v).toList ++ ['\n'] :=
  String.toList_append

theorem readJson?_resultObject (v : PartitionValues) :
    readJson? (resultObject v).toList = some (record v) := by
  rw [resultObject, readJson?_jsonLine]
  · simp [memberValue, Json.value, record, Function.comp_def]
  · intro m hm t ht
    simp only [List.mem_cons, List.not_mem_nil, or_false] at hm
    rcases hm with rfl | rfl
    · obtain rfl := List.mem_singleton.mp ht
      exact isUtf16_ofString v.path
    · obtain ⟨value, -, rfl⟩ := List.mem_map.mp ht
      exact isUtf16_ofString value

theorem newline_notMem_resultObject (v : PartitionValues) : '\n' ∉ (resultObject v).toList :=
  fun h => absurd (inPrintableAscii_jsonLine _ _ h) (by decide)

/-- Each result has a line to itself, and nothing stands behind the last one. -/
theorem splitOn_printed (results : List PartitionValues) :
    splitOn '\n' (printed results) = results.map (fun v => (resultObject v).toList) ++ [[]] := by
  induction results with
  | nil => rfl
  | cons v results ih =>
      have hcons : printed (v :: results) = (resultObject v).toList ++ '\n' :: printed results := by
        rw [printed, List.flatMap_cons, toList_resultLine, List.append_assoc]
        rfl
      rw [hcons, splitOn_append_cons (newline_notMem_resultObject v), ih]
      rfl

theorem ascii_of_mem_printed {results : List PartitionValues} {c : Char}
    (h : c ∈ printed results) : c.toNat < 0x80 := by
  obtain ⟨v, -, hc⟩ := List.mem_flatMap.mp h
  rw [toList_resultLine, List.mem_append] at hc
  rcases hc with hc | hc
  · exact Nat.lt_trans (inPrintableAscii_jsonLine _ _ hc).2 (by decide)
  · rw [List.mem_singleton.mp hc]
    decide

/-- Results can be told from what is written for them. -/
theorem printed_inj {results others : List PartitionValues}
    (h : printed results = printed others) : results = others := by
  have hlines : results.map (fun v => (resultObject v).toList) =
      others.map (fun v => (resultObject v).toList) := by
    have hsplit := congrArg (splitOn '\n') h
    rw [splitOn_printed, splitOn_printed] at hsplit
    exact List.append_cancel_right hsplit
  refine (List.map_inj_right fun v v' hv => ?_).mp hlines
  have hread := congrArg readJson? hv
  rw [readJson?_resultObject, readJson?_resultObject] at hread
  exact record_inj (Option.some.inj hread)

/-! ## A run -/

theorem from_deliver_of_ok {batch : Batch} {paths : List String} {results : List PartitionValues}
    (h : (batch.execute paths).1 = .ok results) (console : Console) :
    (deliver batch paths).from console =
      (.ok (), { notices := console.notices ++ (batch.execute paths).2
                 output := console.output ++ Text.ofChars (printed results) }) := by
  have hflatten : (results.map fun v => Text.ofString (resultLine v)).flatten =
      Text.ofChars (printed results) := by
    simp [printed, Text.ofString, Text.ofChars, List.flatMap_def, Function.comp_def]
  unfold deliver
  rw [Running.from_bind, from_extract, h]
  dsimp only [Except.mapError]
  rw [Running.from_writeAll, hflatten]

/-- A run whose paths are due delivers the paths that its text holds. -/
theorem report_of_laysOut {files : FileSystem} {input : Input} {a : Arguments} {batch : Batch}
    {before : Console} {text : List Char} {paths : List String}
    (hdue : (prepare files a).from (opening a) = (.ok (some batch), before))
    (hfrom : PathsFrom files input a (Utf8.encode text))
    (htext : LaysOut (paths.map String.toList) text) :
    report files input a = (deliver batch paths).from before := by
  unfold report work
  rw [Running.from_bind, hdue]
  dsimp only
  unfold process
  rw [readPaths_of_laysOut hfrom htext, Running.from_bind, Running.from_ofExcept]

/-- A run whose paths are due, and whose text lays out paths on its lines, delivers exactly these
paths.  If they have results, the run ends well and prints the results: in ASCII, as many lines as
there are results, each ended by a line feed, and each of them JSON that says what the result is.
Different results are never printed alike. -/
theorem framing_loses_nothing (w : Wording) {files : FileSystem} {input : Input}
    {argv : List String} {a : Arguments} {batch : Batch} {before : Console} {text : List Char}
    {paths : List String} (hread : readArguments argv = .ok (.run a))
    (hdue : (prepare files a).from (opening a) = (.ok (some batch), before))
    (hfrom : PathsFrom files input a (Utf8.encode text))
    (htext : LaysOut (paths.map String.toList) text) :
    report files input a = (deliver batch paths).from before ∧
      (∀ results, (batch.execute paths).1 = .ok results →
        (run w files input argv).ending = .exit 0 ∧
        (run w files input argv).output = Text.ofChars (printed results)) ∧
      (∀ results, (∀ c ∈ printed results, c.toNat < 0x80) ∧
        ∃ written, splitOn '\n' (printed results) = written ++ [[]] ∧
          written.map readJson? = results.map fun v => some (record v)) ∧
      ∀ results others, printed results = printed others → results = others := by
  have hreport := report_of_laysOut hdue hfrom htext
  refine ⟨hreport, fun results hresults => ?_, fun results => ?_, fun _ _ => printed_inj⟩
  · have hunwritten : before.output = [] := by
      have hkept := unwritten_prepare files a (opening a) rfl
      rw [hdue] at hkept
      exact hkept nofun
    have hrun : run w files input argv = leaves w a.verbose (.ok ())
        { notices := before.notices ++ (batch.execute paths).2
          output := Text.ofChars (printed results) } := by
      unfold run
      rw [hread]
      dsimp only
      rw [hreport, from_deliver_of_ok hresults, hunwritten, List.nil_append]
    rw [hrun]
    exact ⟨rfl, rfl⟩
  · refine ⟨fun _ => ascii_of_mem_printed, results.map fun v => (resultObject v).toList,
      splitOn_printed results, ?_⟩
    rw [List.map_map]
    refine List.map_congr_left fun v _ => ?_
    rw [Function.comp_apply]
    exact readJson?_resultObject v

/-! ### A run over two paths with odd characters -/

def oddCommand : List String :=
  ["--table", "orders", "--base-path", "/data", "--partition-value-extractor", "hive_style",
    "--decode-partition"]

def oddArguments : Arguments :=
  { table? := some "orders", basePath? := some "/data", extractor? := some "hive_style",
    decode := true }

def oddProperties : PropertyBag Text :=
  .ofList [(tableKey, "orders"), (basePathKey, "/data"), (extractorClassKey, "hive_style"),
    (decodeKey, "true")]

def oddConfig : SyncConfig :=
  { enabled := false, extractorClass := "hive_style", decode := true }

def oddBatch : Batch :=
  { config := oddConfig, extractor := Extractor.hiveStyle true }

/-- Two paths: one holds a next-line character, the other an escaped line feed. -/
def oddPaths : List String :=
  ["k=a\u0085b", "k=%0A\"😀"]

/-- The paths on lines, with a blank line between them. -/
def oddText : List Char :=
  "k=a\u0085b\r\x0c \nk=%0A\"😀".toList

def noFiles : FileSystem :=
  fun _ => .missing

theorem due_odd : ∃ before,
    (prepare noFiles oddArguments).from (opening oddArguments) =
      (.ok (some oddBatch), before) := by
  have hcollect : collectProperties noFiles oddArguments = .ok oddProperties :=
    ok_of_toOption (by decide +kernel)
  have hconfig : (SyncConfig.fromProperties (oddProperties.mapValues some)).1 = .ok oddConfig :=
    ok_of_toOption (by decide +kernel)
  have hcreate : Registry.builtin.create oddConfig =
      .ok (.hiveStyle true, .selected .hiveStyle "default" "orders") := by
    have hstrategy : Registry.builtin.strategy oddConfig.extractorClass = .ok .hiveStyle :=
      Registry.strategy_builtin_aliasName .hiveStyle
    rw [Registry.create, hstrategy]
    rfl
  exact ⟨_, from_prepare_of_settled _ rfl rfl hcollect hconfig hcreate⟩

theorem laysOut_odd : LaysOut (oddPaths.map String.toList) oddText := by
  have hblank : IsLine "\x0c ".toList := by decide
  have hlast : LaysOut ["k=%0A\"😀".toList] "k=%0A\"😀".toList :=
    .lastLine (by decide) (by decide)
  exact .line (by decide) (by decide) .carriageReturn (.blank hblank (by decide) .lineFeed hlast)

def oddWording : Wording :=
  { time := "09:00", illFormed := "not well-formed", notText := "not text" }

/-- Both paths come in as they are, and both values go out, the line feed escaped. -/
theorem framing_of_odd_paths :
    readArguments oddCommand = .ok (.run oddArguments) ∧
      (∃ before, (prepare noFiles oddArguments).from (opening oddArguments) =
        (.ok (some oddBatch), before)) ∧
      PathsFrom noFiles (.bytes (Utf8.encode oddText)) oddArguments (Utf8.encode oddText) ∧
      LaysOut (oddPaths.map String.toList) oddText ∧
      (run oddWording noFiles (.bytes (Utf8.encode oddText)) oddCommand).output =
        Text.ofChars (printed [⟨"k=a\u0085b", ["a\u0085b"]⟩, ⟨"k=%0A\"😀", ["\n\"😀"]⟩]) := by
  have hread : readArguments oddCommand = .ok (.run oddArguments) :=
    ok_of_toOption (by decide +kernel)
  have hfrom :
      PathsFrom noFiles (.bytes (Utf8.encode oddText)) oddArguments (Utf8.encode oddText) :=
    .input rfl rfl
  have hresults : (oddBatch.execute oddPaths).1 =
      .ok [⟨"k=a\u0085b", ["a\u0085b"]⟩, ⟨"k=%0A\"😀", ["\n\"😀"]⟩] :=
    ok_of_toOption (by decide +kernel)
  obtain ⟨before, hdue⟩ := due_odd
  have hframing := framing_loses_nothing oddWording hread hdue hfrom laysOut_odd
  exact ⟨hread, due_odd, hfrom, laysOut_odd, (hframing.2.1 _ hresults).2⟩

end TableSync.CommandLine
