import ClickHouse.Proofs.Toml.Distinct
import ClickHouse.Settings.Reader

/-!
Where a setting comes from: from the last environment variable that sets it, else from the document,
else it has its standard value (`Settings.load_eq_ok_iff`).
-/

namespace ClickHouse

namespace Layer

/-- What names lead to, through tables only. -/
def valueAt? : List String → Toml → Option Toml
  | [], tree => some tree
  | name :: path, tree => ((members tree).lookup name).bind (valueAt? path)

def Apart : List String → List String → Prop
  | first :: path, other :: names => first ≠ other ∨ Apart path names
  | _, _ => False

theorem overlay_plain {value : Toml} (plain : value.IsPlain) (old : Option Toml) :
    overlay old value = value := by
  cases value with
  | array items => cases plain
  | table entries => cases plain
  | _ => rw [overlay]

theorem setAt_singleton (value base : Toml) (name : String) :
    setAt value base [name] =
      .table (putMember name (overlay ((members base).lookup name) value) (members base)) := by
  rw [setAt, overlayAll, overlayAll]

theorem setAt_isTable (value base : Toml) (name : String) (path : List String) :
    ∃ entries, setAt value base (name :: path) = .table entries := by
  cases path with
  | nil => exact ⟨_, setAt_singleton value base name⟩
  | cons next path => exact ⟨_, rfl⟩

theorem valueAt?_setAt_self {value : Toml} (plain : value.IsPlain) (base : Toml) (name : String)
    (path : List String) :
    valueAt? (name :: path) (setAt value base (name :: path)) = some value := by
  induction path generalizing base name with
  | nil =>
      rw [setAt_singleton, valueAt?, members, lookup_putMember_self, overlay_plain plain]
      rfl
  | cons next path ih =>
      rw [setAt, valueAt?, members, lookup_putMember_self]
      exact ih _ next

theorem valueAt?_setAt_apart (value base : Toml) (path : List String) {other : List String}
    (apart : Apart other path) :
    valueAt? other (setAt value base path) = valueAt? other base := by
  induction path generalizing base other with
  | nil => rfl
  | cons name path ih =>
      cases other with
      | nil => cases apart
      | cons first other =>
          by_cases same : first = name
          · subst same
            have behind : Apart other path := apart.resolve_left fun differ => differ rfl
            cases path with
            | nil => cases other <;> cases behind
            | cons next path =>
                rw [setAt, valueAt?, members, lookup_putMember_self, valueAt?]
                change valueAt? other _ = _
                rw [ih _ behind]
                cases found : (members base).lookup first with
                | some inner => rfl
                | none =>
                    cases other with
                    | nil => cases behind
                    | cons second other => rfl
          · cases path with
            | nil =>
                rw [setAt_singleton, valueAt?, members, lookup_putMember_of_ne _ _ same, valueAt?]
            | cons next path =>
                rw [setAt, valueAt?, members, lookup_putMember_of_ne _ _ same, valueAt?]

def variablePath? (name : String) : Option (List String) :=
  (variableKey? name).map pathOf

/-- What the last variable that sets this path says. -/
def said? (path : List String) : List (String × String) → Option String
  | [] => none
  | (name, text) :: rest =>
    (said? path rest).or (if variablePath? name = some path then some text else none)

theorem apply_environment_cons (base : Toml) (name text : String)
    (rest : List (String × String)) :
    apply base (ofEnvironment ((name, text) :: rest)) =
      apply ((variablePath? name).elim base (setAt (.string text) base)) (ofEnvironment rest) := by
  cases found : variableKey? name with
  | none =>
      have step : ofEnvironment ((name, text) :: rest) = ofEnvironment rest :=
        List.filterMap_cons_none (by simp [found])
      rw [step, variablePath?, found]
      rfl
  | some key =>
      have step : ofEnvironment ((name, text) :: rest) =
          (key, .string text) :: ofEnvironment rest :=
        List.filterMap_cons_some (by simp [found])
      rw [step, variablePath?, found]
      rfl

theorem valueAt?_environment {name : String} {path : List String}
    (environment : List (String × String))
    (apart : ∀ entry ∈ environment, ∀ other, variablePath? entry.1 = some other →
      other = name :: path ∨ Apart (name :: path) other) (base : Toml) :
    valueAt? (name :: path) (apply base (ofEnvironment environment)) =
      ((said? (name :: path) environment).map .string).or (valueAt? (name :: path) base) := by
  induction environment generalizing base with
  | nil => rfl
  | cons entry rest ih =>
      obtain ⟨own, others⟩ := List.forall_mem_cons.mp apart
      obtain ⟨setter, text⟩ := entry
      rw [apply_environment_cons, ih others, said?]
      cases found : variablePath? setter with
      | none => simp
      | some other =>
          rw [Option.elim_some]
          by_cases same : other = name :: path
          · subst same
            have plain : (Toml.string text).IsPlain := trivial
            rw [valueAt?_setAt_self plain, if_pos rfl]
            cases said? (name :: path) rest <;> rfl
          · have differ : ¬some other = some (name :: path) := fun eq => same (Option.some.inj eq)
            rw [valueAt?_setAt_apart _ _ _ ((own other found).resolve_left same), if_neg differ,
              Option.or_none]

theorem putMember_of_notMem {name : String} (value : Toml) {layer : Layer}
    (fresh : name ∉ layer.map Prod.fst) :
    putMember name value layer = layer ++ [(name, value)] := by
  induction layer with
  | nil => rfl
  | cons entry rest ih =>
      obtain ⟨other, old⟩ := entry
      rw [List.map_cons, List.mem_cons, not_or] at fresh
      rw [putMember, if_neg fun same => fresh.1 same.symm, ih fresh.2, List.cons_append]

theorem overlayAll_fresh (before entries : Layer)
    (names : ((before ++ entries).map Prod.fst).Nodup)
    (own : ∀ entry ∈ entries, overlay none entry.2 = entry.2) :
    overlayAll (.table before) entries = .table (before ++ entries) := by
  induction entries generalizing before with
  | nil => rw [overlayAll, List.append_nil]
  | cons entry rest ih =>
      obtain ⟨head, others⟩ := List.forall_mem_cons.mp own
      obtain ⟨name, value⟩ := entry
      have fresh : name ∉ before.map Prod.fst := by
        rw [List.map_append, List.map_cons, List.nodup_append] at names
        exact fun member => names.2.2 name member name (List.mem_cons_self ..) rfl
      have missing : before.lookup name = none := by
        rw [List.lookup_eq_none_iff]
        intro entry member
        refine bne_iff_ne.mpr fun same => fresh ?_
        exact same ▸ List.mem_map_of_mem member
      rw [overlayAll, members, missing, head, putMember_of_notMem value fresh, ih _ _ others,
        List.append_assoc, List.singleton_append]
      rwa [List.append_assoc, List.singleton_append]

theorem overlay_fresh {value : Toml} (once : value.NamesOnce) : overlay none value = value := by
  induction once with
  | plain isPlain => exact overlay_plain isPlain none
  | array each => rw [overlay]
  | table names _ own =>
      rw [overlay]
      exact overlayAll_fresh [] _ names own

def IsSingle (key : String) : Prop :=
  pathOf key = [key]

theorem apply_eq_overlayAll (layer : Layer) (single : ∀ entry ∈ layer, IsSingle entry.1)
    (base : Toml) : apply base layer = overlayAll base layer := by
  induction layer generalizing base with
  | nil => rw [overlayAll, apply, List.foldl_nil]
  | cons entry rest ih =>
      obtain ⟨own, others⟩ := List.forall_mem_cons.mp single
      obtain ⟨name, value⟩ := entry
      have step : apply base ((name, value) :: rest) =
          apply (setAt value base (pathOf name)) rest := rfl
      rw [step, ih others, own, setAt_singleton, overlayAll]

theorem apply_fresh {layer : Layer} (once : (Toml.table layer).NamesOnce)
    (single : ∀ entry ∈ layer, IsSingle entry.1) : apply (.table []) layer = .table layer := by
  have fresh := overlay_fresh once
  rw [overlay] at fresh
  rw [apply_eq_overlayAll layer single]
  exact fresh

end Layer

def Toml.readOr {α : Type} (standard : α) (read : Toml → Option α) (found : Option Toml) :
    Option α :=
  found.elim (some standard) read

theorem Toml.part?_table {α : Type} (entries : Layer) (position : Nat) (name : String)
    (standard : α) (read : Toml → Option α) :
    (Toml.table entries).part? position name standard read =
      readOr standard read (entries.lookup name) := by
  rw [Toml.part?]
  cases entries.lookup name <;> rfl

open Toml (readOr)

structure Connection.ReadFrom (value : String → Option Toml) (connection : Connection) : Prop where
  host : readOr standard.host Toml.text? (value "host") = some connection.host
  port : readOr standard.port (fun found => found.natural?.map UInt16.ofNat) (value "port") =
    some connection.port
  user : readOr standard.user Toml.text? (value "user") = some connection.user
  password : readOr standard.password Toml.text? (value "password") = some connection.password
  database : readOr standard.database Toml.text? (value "database") = some connection.database
  useSsl : readOr standard.useSsl Toml.switch? (value "use_ssl") = some connection.useSsl

theorem Connection.ofToml?_eq_some_iff (entries : Layer) (connection : Connection) :
    Connection.ofToml? (.table entries) = some connection ↔
      connection.ReadFrom fun name => entries.lookup name := by
  constructor
  · intro read
    simp only [Connection.ofToml?, Toml.part?_table, Option.bind_eq_bind,
      Option.bind_eq_some_iff] at read
    obtain ⟨host, isHost, port, isPort, user, isUser, password, isPassword, database, isDatabase,
      useSsl, isUseSsl, same⟩ := read
    obtain rfl := Option.some.inj same
    exact ⟨isHost, isPort, isUser, isPassword, isDatabase, isUseSsl⟩
  · rintro ⟨isHost, isPort, isUser, isPassword, isDatabase, isUseSsl⟩
    simp only [Connection.ofToml?, Toml.part?_table, isHost, isPort, isUser, isPassword,
      isDatabase, isUseSsl]
    rfl

theorem Connection.readFrom_nothing_iff (connection : Connection) :
    (connection.ReadFrom fun _ => none) ↔ some standard = some connection := by
  constructor
  · rintro ⟨host, port, user, password, database, useSsl⟩
    obtain ⟨_, _, _, _, _, _⟩ := connection
    obtain rfl := Option.some.inj host
    obtain rfl := Option.some.inj port
    obtain rfl := Option.some.inj user
    obtain rfl := Option.some.inj password
    obtain rfl := Option.some.inj database
    obtain rfl := Option.some.inj useSsl
    rfl
  · intro same
    obtain rfl := Option.some.inj same
    exact ⟨rfl, rfl, rfl, rfl, rfl, rfl⟩

structure Logging.ReadFrom (value : String → Option Toml) (logging : Logging) : Prop where
  level : readOr standard.level (fun found => found.choice?.bind LogLevel.ofName?)
    (value "level") = some logging.level
  format : readOr standard.format (fun found => found.choice?.bind LogFormat.ofName?)
    (value "format") = some logging.format
  toStandardOutput : readOr standard.toStandardOutput Toml.switch? (value "stdout") =
    some logging.toStandardOutput

theorem Logging.ofToml?_eq_some_iff (entries : Layer) (logging : Logging) :
    Logging.ofToml? (.table entries) = some logging ↔
      logging.ReadFrom fun name => entries.lookup name := by
  constructor
  · intro read
    simp only [Logging.ofToml?, Toml.part?_table, Option.bind_eq_bind,
      Option.bind_eq_some_iff] at read
    obtain ⟨level, isLevel, format, isFormat, toStandardOutput, isSwitch, same⟩ := read
    obtain rfl := Option.some.inj same
    exact ⟨isLevel, isFormat, isSwitch⟩
  · rintro ⟨isLevel, isFormat, isSwitch⟩
    simp only [Logging.ofToml?, Toml.part?_table, isLevel, isFormat, isSwitch]
    rfl

theorem Logging.readFrom_nothing_iff (logging : Logging) :
    (logging.ReadFrom fun _ => none) ↔ some standard = some logging := by
  constructor
  · rintro ⟨level, format, toStandardOutput⟩
    obtain ⟨_, _, _⟩ := logging
    obtain rfl := Option.some.inj level
    obtain rfl := Option.some.inj format
    obtain rfl := Option.some.inj toStandardOutput
    rfl
  · intro same
    obtain rfl := Option.some.inj same
    exact ⟨rfl, rfl, rfl⟩

namespace Settings

open Layer

/-- Settings of which each is what is found at its path, or standard where nothing is. -/
structure ReadFrom (value : List String → Option Toml) (settings : Settings) : Prop where
  quoting : readOr standard.quoting (fun found => found.choice?.bind QuoteStyle.ofName?)
    (value ["identifier_quote"]) = some settings.quoting
  serverVersion : readOr standard.serverVersion (fun found => found.text?.map some)
    (value ["server_version"]) = some settings.serverVersion
  connection : settings.connection.ReadFrom fun name => value ["connection", name]
  logging : settings.logging.ReadFrom fun name => value ["logger", name]

def IsGroup (tree : Toml) (name : String) : Prop :=
  ∀ group, (members tree).lookup name = some group → ∃ entries, group = .table entries

theorem readOr_group_iff {α : Type} {standard : α} {read : Toml → Option α} {entries : Layer}
    {name : String} (isGroup : IsGroup (.table entries) name)
    {From : (String → Option Toml) → α → Prop}
    (present : ∀ entries result, read (.table entries) = some result ↔
      From (fun part => entries.lookup part) result)
    (missing : ∀ result, From (fun _ => none) result ↔ some standard = some result) (result : α) :
    readOr standard read (entries.lookup name) = some result ↔
      From (fun part => valueAt? [name, part] (.table entries)) result := by
  cases found : entries.lookup name with
  | none =>
      have nowhere : (fun part => valueAt? [name, part] (.table entries)) = fun _ => none := by
        funext part
        rw [valueAt?, members, found]
        rfl
      rw [nowhere, missing]
      rfl
  | some group =>
      obtain ⟨inner, rfl⟩ := isGroup group found
      have inside : (fun part => valueAt? [name, part] (.table entries)) =
          fun part => inner.lookup part := by
        funext part
        rw [valueAt?, members, found, Option.bind_some, valueAt?, members]
        cases inner.lookup part <;> rfl
      rw [inside, ← present]
      rfl

theorem ofToml?_eq_some_iff {entries : Layer} (connected : IsGroup (.table entries) "connection")
    (logged : IsGroup (.table entries) "logger") (settings : Settings) :
    ofToml? (.table entries) = some settings ↔
      settings.ReadFrom fun path => valueAt? path (.table entries) := by
  have single : ∀ name, valueAt? [name] (.table entries) = entries.lookup name := by
    intro name
    rw [valueAt?, members]
    cases entries.lookup name <;> rfl
  have connection := readOr_group_iff connected Connection.ofToml?_eq_some_iff
    Connection.readFrom_nothing_iff
  have logging := readOr_group_iff logged Logging.ofToml?_eq_some_iff Logging.readFrom_nothing_iff
  constructor
  · intro read
    simp only [ofToml?, Toml.part?_table, Option.bind_eq_bind, Option.bind_eq_some_iff] at read
    obtain ⟨quoting, isQuoting, version, isVersion, inner, isConnection, log, isLogging, same⟩ :=
      read
    obtain rfl := Option.some.inj same
    refine ⟨?_, ?_, (connection inner).mp isConnection, (logging log).mp isLogging⟩
    · rw [single]
      exact isQuoting
    · rw [single]
      exact isVersion
  · rintro ⟨isQuoting, isVersion, isConnection, isLogging⟩
    rw [single] at isQuoting isVersion
    have isConnection : readOr standard.connection Connection.ofToml?
        (entries.lookup "connection") = some settings.connection :=
      (connection settings.connection).mpr isConnection
    have isLogging : readOr standard.logging Logging.ofToml? (entries.lookup "logger") =
        some settings.logging :=
      (logging settings.logging).mpr isLogging
    simp only [ofToml?, Toml.part?_table, isQuoting, isVersion, isConnection, isLogging]
    rfl

def paths : List (List String) :=
  [["identifier_quote"], ["server_version"], ["connection", "host"], ["connection", "port"],
    ["connection", "user"], ["connection", "password"], ["connection", "database"],
    ["connection", "use_ssl"], ["logger", "level"], ["logger", "format"], ["logger", "stdout"]]

theorem ReadFrom.congr {value other : List String → Option Toml} {settings : Settings}
    (same : ∀ path ∈ paths, value path = other path) (read : settings.ReadFrom value) :
    settings.ReadFrom other := by
  simp only [paths, List.forall_mem_cons] at same
  obtain ⟨quoting, version, host, port, user, password, database, useSsl, level, format,
    toStandardOutput, -⟩ := same
  obtain ⟨isQuoting, isVersion, connection, logging⟩ := read
  refine ⟨quoting ▸ isQuoting, version ▸ isVersion, ?_, ?_⟩
  · obtain ⟨isHost, isPort, isUser, isPassword, isDatabase, isUseSsl⟩ := connection
    exact ⟨host ▸ isHost, port ▸ isPort, user ▸ isUser, password ▸ isPassword,
      database ▸ isDatabase, useSsl ▸ isUseSsl⟩
  · obtain ⟨isLevel, isFormat, isSwitch⟩ := logging
    exact ⟨level ▸ isLevel, format ▸ isFormat, toStandardOutput ▸ isSwitch⟩

/-- A variable that sets a single setting, or something that no setting has to do with. -/
def IsApt (name : String) : Prop :=
  ∀ found, variablePath? name = some found → ∀ path ∈ paths, found = path ∨ Apart path found

theorem IsApt.path_ne {name : String} (apt : IsApt name) {found : List String}
    (sets : variablePath? name = some found) {group : String}
    (isGroup : group = "connection" ∨ group = "logger") : found ≠ [group] := by
  rintro rfl
  have differ := apt _ sets
  obtain rfl | rfl := isGroup
  · obtain same | apart := differ ["connection", "host"] (by simp [paths])
    · cases same
    · obtain differ | none := apart
      · exact differ rfl
      · exact none
  · obtain same | apart := differ ["logger", "level"] (by simp [paths])
    · cases same
    · obtain differ | none := apart
      · exact differ rfl
      · exact none

theorem isGroup_setAt {group : String} (value base : Toml) {path : List String}
    (whole : path ≠ [group]) (isGroup : IsGroup base group) :
    IsGroup (setAt value base path) group := by
  cases path with
  | nil => exact isGroup
  | cons name path =>
      cases path with
      | nil =>
          have differ : group ≠ name := fun same => whole (same ▸ rfl)
          rw [IsGroup, setAt_singleton, members, lookup_putMember_of_ne _ _ differ]
          exact isGroup
      | cons next path =>
          rw [IsGroup, setAt, members]
          by_cases same : group = name
          · subst same
            rw [lookup_putMember_self]
            intro inner found
            obtain rfl := Option.some.inj found
            exact setAt_isTable value _ next path
          · rw [lookup_putMember_of_ne _ _ same]
            exact isGroup

theorem isGroup_environment {group : String} (named : group = "connection" ∨ group = "logger")
    (environment : List (String × String)) (apt : ∀ entry ∈ environment, IsApt entry.1)
    {base : Toml} (isGroup : IsGroup base group) :
    IsGroup (apply base (ofEnvironment environment)) group := by
  induction environment generalizing base with
  | nil => exact isGroup
  | cons entry rest ih =>
      obtain ⟨own, others⟩ := List.forall_mem_cons.mp apt
      obtain ⟨name, text⟩ := entry
      rw [apply_environment_cons]
      refine ih others ?_
      cases sets : variablePath? name with
      | none => exact isGroup
      | some path => exact isGroup_setAt _ base (own.path_ne sets named) isGroup

theorem apply_isTable (layer later : Layer) :
    ∃ entries, apply (.table layer) later = .table entries := by
  induction later generalizing layer with
  | nil => exact ⟨layer, rfl⟩
  | cons entry rest ih =>
      have step : apply (.table layer) (entry :: rest) =
          apply (setAt entry.2 (.table layer) (pathOf entry.1)) rest := rfl
      rw [step]
      cases pathOf entry.1 with
      | nil => exact ih layer
      | cons name path =>
          obtain ⟨entries, isTable⟩ := setAt_isTable entry.2 (.table layer) name path
          rw [isTable]
          exact ih entries

theorem namesOnce_of_documentLayer {document : Option String} {layer : Layer}
    (isDocument : documentLayer? document = some layer) : (Toml.table layer).NamesOnce := by
  cases document with
  | none =>
      obtain rfl := Option.some.inj isDocument
      exact .table List.nodup_nil (by simp)
  | some text => exact Toml.namesOnce_of_read isDocument

/-- Settings are read just when every one of them is read from what the last variable for it says,
else from the document, else is standard. -/
theorem load_eq_ok_iff {document : Option String} {layer : Layer}
    (isDocument : documentLayer? document = some layer)
    (single : ∀ entry ∈ layer, IsSingle entry.1)
    (connected : IsGroup (.table layer) "connection") (logged : IsGroup (.table layer) "logger")
    (environment : List (String × String)) (apt : ∀ entry ∈ environment, IsApt entry.1)
    (settings : Settings) :
    load document environment = .ok settings ↔
      settings.ReadFrom fun path =>
        ((said? path environment).map .string).or (valueAt? path (.table layer)) := by
  have fresh : apply (.table []) layer = .table layer :=
    apply_fresh (namesOnce_of_documentLayer isDocument) single
  obtain ⟨entries, isTable⟩ := apply_isTable layer (ofEnvironment environment)
  have connection := isGroup_environment (.inl rfl) environment apt connected
  have logging := isGroup_environment (.inr rfl) environment apt logged
  rw [isTable] at connection logging
  have loaded : load document environment = .ok settings ↔
      ofToml? (.table entries) = some settings := by
    rw [load, isDocument]
    dsimp only
    rw [fresh, isTable]
    cases ofToml? (.table entries) <;> simp
  have each : ∀ path ∈ paths, valueAt? path (.table entries) =
      ((said? path environment).map .string).or (valueAt? path (.table layer)) := by
    intro path member
    have nonempty : ∀ path ∈ paths, path ≠ [] := by decide
    cases path with
    | nil => exact absurd rfl (nonempty _ member)
    | cons name path =>
        rw [← isTable]
        exact valueAt?_environment environment
          (fun entry isEntry other sets => apt entry isEntry other sets _ member) (.table layer)
  rw [loaded, ofToml?_eq_some_iff connection logging]
  constructor
  · exact ReadFrom.congr each
  · exact ReadFrom.congr fun path member => (each path member).symm

example : (load none [("HOME", "/"), ("CH_DIALECT__CONNECTION__PORT", "9000")]).toOption =
    some { standard with connection := { Connection.standard with port := 9000 } } := by
  decide +kernel

/-- Variables that are none of ours make no difference. -/
theorem load_filter (document : Option String) (environment : List (String × String)) :
    load document (environment.filter fun entry => (variableKey? entry.1).isSome) =
      load document environment := by
  have same : ofEnvironment (environment.filter fun entry => (variableKey? entry.1).isSome) =
      ofEnvironment environment := by
    rw [ofEnvironment, ofEnvironment, List.filterMap_filter]
    refine List.filterMap_congr fun entry _ => ?_
    obtain ⟨name, text⟩ := entry
    cases found : variableKey? name <;> simp [found]
  rw [load, load, same]

end Settings

end ClickHouse
