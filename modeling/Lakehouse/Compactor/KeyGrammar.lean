import Lakehouse.Compactor.ObjectKeys

/-!
# Which keys are assigned to a partition

The keys of a partition are the texts `<prefix>/event_date=<date>/event_hour=<hour>/….parquet`.
All of them are parsed back, for every prefix which a table path can give.  The search is not
anchored at the start of the key, so that a key of another place is assigned to a partition as
soon as such a text stands at its end.
-/

namespace Lakehouse

open Foundation

/-- The text is a path of a data file of the partition, from the prefix of the table on. -/
def IsPathOf (config : CompactionConfig) (eventDate : String) (eventHour : Int)
    (text : List Char) : Prop :=
  eventDate ≠ "" ∧ '/' ∉ eventDate.toList ∧
    ∃ digits rest, digits ≠ [] ∧ (∀ c ∈ digits, (decimalValue? c).isSome = true) ∧
      intOfDigits digits = eventHour ∧
      text = config.tableKeyPrefix.toList ++ "/event_date=".toList ++ eventDate.toList ++
        "/event_hour=".toList ++ digits ++ "/".toList ++ rest ++ ".parquet".toList

/-- A path without line breaks is what the pattern describes. -/
theorem isPathOf_iff {config : CompactionConfig} {eventDate : String} {eventHour : Int}
    {text : List Char} (no_break : '\n' ∉ text) :
    IsPathOf config eventDate eventHour text ↔
      ∃ digits, CapturedFrom config eventDate.toList digits text ∧
        intOfDigits digits = eventHour := by
  have slash : "/".toList = ['/'] := by decide
  have hour : "/event_hour=".toList = '/' :: "event_hour=".toList := by decide
  simp only [IsPathOf, capturedFrom_iff, CompactionConfig.rstripSlash_tableKeyPrefix, slash, hour]
  generalize config.tableKeyPrefix.toList = start
  generalize "/event_date=".toList = dateName
  generalize "event_hour=".toList = hourName
  generalize ".parquet".toList = extension
  constructor
  · rintro ⟨date_ne, date_free, digits, rest, digits_ne, decimal, value, rfl⟩
    have rest_break : '\n' ∉ rest := fun member => no_break (by simp [member])
    refine ⟨digits, ⟨fun empty => date_ne (String.toList_inj.mp empty), date_free, digits_ne,
      decimal, rest, [], rest_break, .inl rfl, ?_⟩, value⟩
    simp
  · rintro ⟨digits, ⟨date_ne, date_free, digits_ne, decimal, rest, tail, rest_break, ends, rfl⟩,
      value⟩
    obtain rfl : tail = [] := by
      rcases ends with empty | rfl
      · exact empty
      · exact absurd (by simp) no_break
    refine ⟨fun empty => date_ne (empty ▸ rfl), date_free, digits, rest, digits_ne, decimal, value,
      ?_⟩
    simp

/-- A key which is a path from its start is parsed to its partition. -/
theorem parsePartitionFromKey_of_isPathOf {config : CompactionConfig} {eventDate key : String}
    {eventHour : Int} (no_break : '\n' ∉ key.toList)
    (path : IsPathOf config eventDate eventHour key.toList) :
    parsePartitionFromKey key config = some (eventDate, eventHour) := by
  obtain ⟨digits, cut, rfl⟩ := (isPathOf_iff no_break).mp path
  rw [parsePartitionFromKey_of_capturedFrom cut, String.ofList_toList]

/-- A key is parsed to a partition only if some suffix of it is a path of the partition. -/
theorem exists_suffix_of_parsePartitionFromKey {config : CompactionConfig} {key : String}
    {eventDate : String} {eventHour : Int} (no_break : '\n' ∉ key.toList)
    (parsed : parsePartitionFromKey key config = some (eventDate, eventHour)) :
    ∃ text, text <:+ key.toList ∧ IsPathOf config eventDate eventHour text := by
  cases found : Pattern.search (partitionRe config) key.toList with
  | none => simp [parsePartitionFromKey, found] at parsed
  | some groups =>
      obtain ⟨text, suffix, described⟩ := Pattern.search_sound found
      obtain ⟨date, digits, rfl, cut⟩ := matches_partitionRe.mp described
      simp only [parsePartitionFromKey, found, Option.some.injEq, Prod.mk.injEq] at parsed
      obtain ⟨rfl, value⟩ := parsed
      have text_break : '\n' ∉ text := fun member => no_break (suffix.mem member)
      refine ⟨text, suffix, (isPathOf_iff text_break).mpr ⟨digits, ?_, value⟩⟩
      rwa [String.toList_ofList]

/-- Conversely a suffix which is a path is enough for the key to be parsed to some partition. -/
theorem exists_parsePartitionFromKey_of_suffix {config : CompactionConfig} {key : String}
    {eventDate : String} {eventHour : Int} {text : List Char} (no_break : '\n' ∉ key.toList)
    (suffix : text <:+ key.toList) (path : IsPathOf config eventDate eventHour text) :
    ∃ date hour, parsePartitionFromKey key config = some (date, hour) := by
  have text_break : '\n' ∉ text := fun member => no_break (suffix.mem member)
  obtain ⟨digits, cut, -⟩ := (isPathOf_iff text_break).mp path
  have some_match := Pattern.search_isSome suffix
    (matches_partitionRe.mpr ⟨eventDate.toList, digits, rfl, cut⟩)
  obtain ⟨groups, found⟩ := Option.isSome_iff_exists.mp some_match
  obtain ⟨_, -, described⟩ := Pattern.search_sound found
  obtain ⟨date, digits', rfl, -⟩ := matches_partitionRe.mp described
  exact ⟨String.ofList date, intOfDigits digits', by simp [parsePartitionFromKey, found]⟩

/-- Keys are assigned to the partition under whose directory they stand exactly if the key is a
path itself, or no suffix of it is one. -/
theorem parsePartitionFromKey_anchored_iff (config : CompactionConfig) (key : String)
    (no_break : '\n' ∉ key.toList) :
    (∀ eventDate eventHour, parsePartitionFromKey key config = some (eventDate, eventHour) →
        IsPathOf config eventDate eventHour key.toList) ↔
      (∃ eventDate eventHour, IsPathOf config eventDate eventHour key.toList) ∨
        ∀ text, text <:+ key.toList → ∀ eventDate eventHour,
          ¬IsPathOf config eventDate eventHour text := by
  constructor
  · intro anchored
    by_cases inside : ∃ text, text <:+ key.toList ∧
        ∃ eventDate eventHour, IsPathOf config eventDate eventHour text
    · obtain ⟨text, suffix, eventDate, eventHour, path⟩ := inside
      obtain ⟨date, hour, parsed⟩ := exists_parsePartitionFromKey_of_suffix no_break suffix path
      exact .inl ⟨date, hour, anchored date hour parsed⟩
    · right
      intro text suffix eventDate eventHour path
      exact inside ⟨text, suffix, eventDate, eventHour, path⟩
  · rintro (⟨date, hour, path⟩ | outside) eventDate eventHour parsed
    · rw [parsePartitionFromKey_of_isPathOf no_break path] at parsed
      obtain ⟨rfl, rfl⟩ := Prod.mk.inj (Option.some.inj parsed)
      exact path
    · obtain ⟨text, suffix, path⟩ := exists_suffix_of_parsePartitionFromKey no_break parsed
      exact absurd path (outside text suffix eventDate eventHour)

theorem parsePartitionFromKey_anchored_sample :
    ∃ eventDate eventHour,
      parsePartitionFromKey "raw/events/event_date=2024-06-11/event_hour=9/part.parquet" {} =
        some (eventDate, eventHour) ∧
      IsPathOf {} eventDate eventHour
        "raw/events/event_date=2024-06-11/event_hour=9/part.parquet".toList := by
  have no_break :
      '\n' ∉ "raw/events/event_date=2024-06-11/event_hour=9/part.parquet".toList := by decide
  have path : IsPathOf {} "2024-06-11" 9
      "raw/events/event_date=2024-06-11/event_hour=9/part.parquet".toList := by
    refine ⟨by decide, by decide, ['9'], "part".toList, by decide, by decide, by decide, ?_⟩
    decide +kernel
  have parsed := parsePartitionFromKey_of_isPathOf no_break path
  exact ⟨"2024-06-11", 9, parsed,
    (parsePartitionFromKey_anchored_iff {} _ no_break).mpr (.inl ⟨_, _, path⟩) _ _ parsed⟩

theorem IsPathOf.starts {config : CompactionConfig} {eventDate : String} {eventHour : Int}
    {text : List Char} (path : IsPathOf config eventDate eventHour text) :
    config.tableKeyPrefix.toList ++ "/event_date=".toList <+: text := by
  obtain ⟨-, -, digits, rest, -, -, -, text_eq⟩ := path
  rw [text_eq]
  generalize config.tableKeyPrefix.toList ++ "/event_date=".toList = start
  simp only [List.append_assoc]
  exact List.prefix_append start _

/-- A copy of the table kept below its own path is scanned as if it were the table. -/
theorem parsePartitionFromKey_not_anchored :
    ¬∀ (config : CompactionConfig) (key : String), '\n' ∉ key.toList →
      ∀ eventDate eventHour, parsePartitionFromKey key config = some (eventDate, eventHour) →
        IsPathOf config eventDate eventHour key.toList := by
  intro anchored
  have path := anchored {}
    "raw/events/old/raw/events/event_date=2024-06-11/event_hour=9/part.parquet" (by decide)
    "2024-06-11" 9 (by decide +kernel)
  exact absurd path.starts (by decide +kernel)

/-! ## Round trip -/

/-- Every text which does not end in a slash is the key prefix of some table path. -/
theorem exists_tableKeyPrefix_eq {tablePrefix : String}
    (no_slash : tablePrefix.toList.getLast? ≠ some '/') :
    ∃ config : CompactionConfig, config.tableKeyPrefix = tablePrefix := by
  refine ⟨{ deltaTablePath := "s3a://b/" ++ tablePrefix }, ?_⟩
  have scheme : "s3a://b/".toList = "s3a://".toList ++ ['b', '/'] := by decide
  have stripped : stripScheme ("s3a://b/" ++ tablePrefix).toList =
      'b' :: '/' :: tablePrefix.toList := by
    rw [String.toList_append, scheme, List.append_assoc, stripScheme,
      if_pos (List.isPrefixOf_iff_prefix.mpr (List.prefix_append _ _)), List.drop_left]
    rfl
  have kept : tablePrefix.toList.rdropWhile (· == '/') = tablePrefix.toList := by
    rw [List.rdropWhile_eq_self_iff]
    intro nonempty
    simpa [List.getLast?_eq_some_getLast nonempty] using no_slash
  simp only [CompactionConfig.tableKeyPrefix, stripped, afterFirstSlash]
  rw [rstripSlash, String.toList_ofList]
  simpa using congrArg String.ofList kept

/-- Below every prefix, the keys of a partition are parsed to its date and hour. -/
theorem parsePartitionFromKey_partitionId (tablePrefix : String)
    (no_slash : tablePrefix.toList.getLast? ≠ some '/') :
    (∃ config : CompactionConfig, config.tableKeyPrefix = tablePrefix) ∧
      ∀ config : CompactionConfig, config.tableKeyPrefix = tablePrefix →
        ∀ (stats : PartitionStats) (name : String), stats.eventDate ≠ "" →
          '/' ∉ stats.eventDate.toList → 0 ≤ stats.eventHour → '\n' ∉ name.toList →
          parsePartitionFromKey
              (tablePrefix ++ "/" ++ stats.partitionId ++ "/" ++ name ++ ".parquet") config =
            some (stats.eventDate, stats.eventHour) := by
  refine ⟨exists_tableKeyPrefix_eq no_slash, ?_⟩
  rintro config rfl ⟨eventDate, eventHour, files⟩ name date_ne date_free hour_nonneg name_free
  obtain ⟨hour, rfl⟩ := Int.eq_ofNat_of_zero_le hour_nonneg
  exact parsePartitionFromKey_dataKey date_ne date_free name_free

theorem parsePartitionFromKey_partitionId_sample :
    parsePartitionFromKey
        ("raw.(events)+" ++ "/" ++
          PartitionStats.partitionId ⟨"event_date=x", 7, []⟩ ++ "/" ++
          "old/event_date=2024-06-11/event_hour=9/part" ++ ".parquet")
        { deltaTablePath := "s3a://lakehouse/raw.(events)+" } =
      some ("event_date=x", 7) :=
  (parsePartitionFromKey_partitionId "raw.(events)+" (by decide)).2
    { deltaTablePath := "s3a://lakehouse/raw.(events)+" } (by decide +kernel)
    ⟨"event_date=x", 7, []⟩ "old/event_date=2024-06-11/event_hour=9/part" (by decide) (by decide)
    (by decide) (by decide)

end Lakehouse
