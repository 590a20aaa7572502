import TableSync.Proofs.CommandLine.Framing
import TableSync.Proofs.CommandLine.Layers
import TableSync.Proofs.Resolution.SyncValues
import TableSync.Proofs.Text.Pieces

/-!
# Values that are lists

A list is written as one text, its items between commas, and read by splitting the text at its
commas.  A text falls into items on either side of every comma on its own, and all else follows from
this: it makes no difference whether lists stand inside lists, whether a text with commas stands for
one item or for several, and whether an option is given once or more often.
-/

namespace TableSync.Config

open TableSync.Text

/-! ## Splitting what was joined -/

/-- A comma separates the items before it from the items behind it. -/
theorem splitList_append (before after : Text) :
    splitList (before ++ .char ',' :: after) = splitList before ++ splitList after := by
  unfold splitList
  rw [splitOn_append, List.map_append, List.filter_append]

theorem splitList_joined (parts : List Text) :
    splitList (Text.joined "," parts) = parts.flatMap splitList := by
  induction parts with
  | nil => rfl
  | cons part rest ih =>
      cases rest with
      | nil => simp [Text.joined]
      | cons next rest =>
          have hcomma (t : Text) : part ++ "," ++ t = part ++ .char ',' :: t :=
            List.append_assoc _ _ _
          rw [joined_cons_cons, hcomma, splitList_append, ih]
          rfl

/-! ## Items -/

/-- A text that a list can have as an item: it is not empty, has no comma, and neither begins nor
ends with a blank. -/
structure IsItem (t : Text) : Prop where
  nonempty : t ≠ []
  commaFree : .char ',' ∉ t
  first : ∀ c ∈ t.head?, isBlankPoint c = false
  last : ∀ c ∈ t.getLast?, isBlankPoint c = false

theorem isItem_of_mem_splitList {s item : Text} (h : item ∈ splitList s) : IsItem item := by
  obtain ⟨hmem, hne⟩ := List.mem_filter.mp h
  obtain ⟨piece, hpiece, rfl⟩ := List.mem_map.mp hmem
  refine ⟨of_decide_eq_true hne, fun hcomma => ?_, fun c hc => head?_trimEnds hc,
    fun c hc => getLast?_trimEnds hc⟩
  obtain ⟨front, back, hsplit, -⟩ := exists_trimEnds isBlankPoint piece
  apply not_mem_of_mem_splitOn hpiece
  rw [hsplit]
  exact List.mem_append_left _ (List.mem_append_right _ hcomma)

theorem splitList_of_isItem {t : Text} (h : IsItem t) : splitList t = [t] := by
  have hstrip : strip t = t := trimEnds_eq_self h.first h.last
  unfold splitList
  rw [splitOn_of_notMem h.commaFree, List.map_singleton, hstrip]
  simp [h.nonempty]

/-- An item is a list of one. -/
theorem isItem_iff {t : Text} : IsItem t ↔ splitList t = [t] := by
  refine ⟨splitList_of_isItem, fun h => isItem_of_mem_splitList (s := t) ?_⟩
  rw [h]
  exact List.mem_singleton_self t

instance (t : Text) : Decidable (IsItem t) :=
  decidable_of_iff _ isItem_iff.symm

/-- Items that are joined and split are the same items again. -/
theorem splitList_joined_of_isItem {items : List Text} (h : ∀ item ∈ items, IsItem item) :
    splitList (Text.joined "," items) = items := by
  rw [splitList_joined]
  induction items with
  | nil => rfl
  | cons item rest ih =>
      obtain ⟨hitem, hrest⟩ := List.forall_mem_cons.mp h
      rw [List.flatMap_cons, splitList_of_isItem hitem, ih hrest]
      rfl

end TableSync.Config

namespace TableSync.Document

open TableSync.Config

/-! ## Lists inside lists -/

mutual

/-- What stands in a list, from left to right, when the lists and tuples inside it are opened. -/
def Value.listLeaves : Value → List Value
  | .list items => itemLeaves items
  | .tuple items => itemLeaves items
  | v => [v]

def itemLeaves : List Value → List Value
  | [] => []
  | v :: vs => v.listLeaves ++ itemLeaves vs

end

/-- The items of a leaf. -/
def Value.items (v : Value) : List Text :=
  splitList v.propertyText

mutual

theorem items_eq_flatMap_listLeaves (v : Value) : v.items = v.listLeaves.flatMap Value.items := by
  cases v with
  | list vs =>
      rw [Value.items, Value.propertyText, splitList_joined, Value.listLeaves,
        flatMap_propertyTexts vs]
  | tuple vs =>
      rw [Value.items, Value.propertyText, splitList_joined, Value.listLeaves,
        flatMap_propertyTexts vs]
  | _ => simp [Value.listLeaves]

theorem flatMap_propertyTexts (vs : List Value) :
    (Value.propertyTexts vs).flatMap splitList = (itemLeaves vs).flatMap Value.items := by
  cases vs with
  | nil => rfl
  | cons v rest =>
      rw [Value.propertyTexts, List.flatMap_cons, itemLeaves, List.flatMap_append,
        ← items_eq_flatMap_listLeaves v, ← flatMap_propertyTexts rest]
      rfl

end

end TableSync.Document

namespace TableSync.CommandLine

open TableSync.Config TableSync.Document TableSync.Files

/-! ## Fields of the command line -/

section Fields

variable {files : FileSystem} {a : Arguments} {bag : PropertyBag Text}

/-- The partition fields of a command line; nothing else may set them where no option does. -/
theorem listItems_fieldsText_of_arguments (h : collectProperties files a = .ok bag)
    (hunset : a.partitionedBy = [] →
      bag.contains partitionFieldsKey = false ∧ bag.contains keyFieldsKey = false) :
    listItems (fieldsText (bag.mapValues some)) =
      a.partitionedBy.flatMap fun fields => splitList (Text.ofString fields) := by
  by_cases hgiven : a.partitionedBy = []
  · obtain ⟨hfields, hkey⟩ := hunset hgiven
    have hcontains (key : Text) : (bag.mapValues some).contains key = bag.contains key := by
      rw [PropertyBag.contains, PropertyBag.get?_mapValues, Option.isSome_map]
      rfl
    rw [hgiven, listItems_fieldsText_of_unset ((hcontains _).trans hfields)
      ((hcontains _).trans hkey)]
    rfl
  · have hvalue : bag.get? partitionFieldsKey =
        some (Text.joined "," (a.partitionedBy.map Text.ofString)) :=
      (get?_collectProperties h).mpr (.option (.partitionedBy hgiven))
    rw [fieldsText, PropertyBag.get?_mapValues, hvalue]
    show splitList (Text.joined "," (a.partitionedBy.map Text.ofString)) = _
    rw [splitList_joined, List.flatMap_map]

end Fields

/-- The partition fields are asked for in any state of a session with one answer. -/
theorem list_partitionFields (properties : PropertyBag (Option Text))
    (requests : List Session.Request) :
    (((Session.start properties syncCatalog).after requests).handle
      (.list partitionFieldsKey)).1 = .ok (.items (listItems (fieldsText properties))) := by
  have hagrees : AgreesWith properties syncCatalog syncRank
      ((Session.start properties syncCatalog).after requests).resolver :=
    agreesWith_after rankedBy_syncRank requests
  have hanswers : Answers (AgreesWith properties syncCatalog syncRank)
      (Resolver.list partitionFieldsKey)
      (Config.read (syncValue properties) itemsOf partitionFieldsKey) :=
    answers_read (answers_rankedValue rankedBy_syncRank) itemsOf partitionFieldsKey
  refine (Session.ask_of_answers hanswers hagrees _).trans ?_
  rw [read_itemsOf, syncValue_partitionFieldsKey]
  rfl

/-- A list has the same items wherever it comes from: those of its leaves, however they are nested
in a document, and those of the arguments, however they are distributed over them on the command
line.  What a text is split into are items, and items that are joined and split are the same
again. -/
theorem lists_mean_the_same :
    (∀ v : Value, splitList v.propertyText =
      v.listLeaves.flatMap fun leaf => splitList leaf.propertyText) ∧
    (∀ files a bag, collectProperties files a = .ok bag →
      (a.partitionedBy = [] →
        bag.contains partitionFieldsKey = false ∧ bag.contains keyFieldsKey = false) →
      let fields := a.partitionedBy.flatMap fun fields => splitList (Text.ofString fields)
      let properties := bag.mapValues some
      (∀ requests, (((Session.start properties syncCatalog).after requests).handle
        (.list partitionFieldsKey)).1 = .ok (.items fields)) ∧
      ∀ config, (SyncConfig.fromProperties properties).1 = .ok config →
        config.partitionFields = fields) ∧
    (∀ s, (∀ item ∈ splitList s, IsItem item) ∧
      splitList (Text.joined "," (splitList s)) = splitList s) ∧
    ∀ items, (∀ item ∈ items, IsItem item) → splitList (Text.joined "," items) = items := by
  refine ⟨items_eq_flatMap_listLeaves, fun files a bag hcollect hunset => ?_, fun s => ?_,
    fun items => splitList_joined_of_isItem⟩
  · have hfields := listItems_fieldsText_of_arguments hcollect hunset
    refine ⟨fun requests => ?_, fun config hconfig => ?_⟩
    · rw [list_partitionFields, hfields]
    · exact (partitionFields_of_fromProperties hconfig).trans hfields
  · have hitems : ∀ item ∈ splitList s, IsItem item := fun item => isItem_of_mem_splitList
    exact ⟨hitems, splitList_joined_of_isItem hitems⟩

/-- The arguments of a run whose fields come in three pieces, one of them without any. -/
def raggedArguments : Arguments :=
  { basePath? := some "/data/orders", partitionedBy := [" region,,day\u3000", " ,", "hour"] }

def raggedProperties : PropertyBag Text :=
  .ofList [(basePathKey, "/data/orders"), (partitionFieldsKey, " region,,day\u3000, ,,hour")]

/-- The run has three fields, and a text with the same items in nested lists has them too. -/
theorem lists_mean_the_same_of_ragged_fields :
    let properties := raggedProperties.mapValues some
    let fields : List Text := ["region", "day", "hour"]
    collectProperties noFiles raggedArguments = .ok raggedProperties ∧
      ((Session.start properties syncCatalog).handle (.list partitionFieldsKey)).1 =
        .ok (.items fields) ∧
      (∃ config, (SyncConfig.fromProperties properties).1 = .ok config ∧
        config.partitionFields = fields) ∧
      splitList (Value.propertyText
        (.tuple [.null, .list [.text " region,,day\u3000", .list []], .text "hour"])) = fields ∧
      splitList (Text.joined "," fields) = fields := by
  intro properties fields
  have hcollect : collectProperties noFiles raggedArguments = .ok raggedProperties :=
    ok_of_toOption (by decide +kernel)
  have hfields : (raggedArguments.partitionedBy.flatMap fun fields =>
      splitList (Text.ofString fields)) = fields := by
    decide +kernel
  obtain ⟨hnested, hgiven, -, hitems⟩ := lists_mean_the_same
  obtain ⟨hlist, hconfig⟩ := hgiven noFiles raggedArguments raggedProperties hcollect nofun
  rw [hfields] at hlist hconfig
  refine ⟨hcollect, hlist [], ?_, (hnested _).trans (by decide +kernel),
    hitems fields (by decide +kernel)⟩
  cases hsettings : (SyncConfig.fromProperties properties).1 with
  | ok config => exact ⟨config, rfl, hconfig config hsettings⟩
  | error e =>
      have hok : (SyncConfig.fromProperties properties).1.toOption.isSome = true := by
        decide +kernel
      rw [hsettings] at hok
      cases hok

end TableSync.CommandLine
