import GuardedSql.Session

/-! Another database. A session over a database that is not the one of the settings may be started
from the settings, or from the data source that they describe. Settings check the name that is
given, and pass over an empty one; a data source takes the name as it is. The two starts are the
same for every name that a data source may be made with, and for no other. -/

namespace GuardedSql

open Config (DataSource Settings)

/-- The database that a driver is told to open. -/
def Opening.database : Opening → Text
  | .file database _ => database
  | .server _ _ _ database _ _ _ => database

theorem Opening.database_plan (timeout : Int) (ds : DataSource) :
    (plan timeout ds).database = ds.database := by
  unfold plan
  split <;> rfl

namespace Config

theorem bounded_eq_ok_iff {least most : Nat} {t u : Text} :
    bounded least most t = .ok u ↔ u = t ∧ least ≤ t.length ∧ t.length ≤ most := by
  unfold bounded
  split
  · simp
    omega
  · split
    · simp
      omega
    · rw [Except.ok.injEq, eq_comm]
      simp
      omega

namespace DataSource

/-- A name that a data source may have for its database. -/
def IsDatabase (name : Text) : Prop := 1 ≤ name.length ∧ name.length ≤ 1024

theorem checkDatabase_eq_ok_iff {name checked : Text} :
    checkDatabase name = .ok checked ↔ checked = name ∧ IsDatabase name :=
  bounded_eq_ok_iff

/-- A data source is its checked fields, if a server has all that it takes. -/
theorem assemble_eq_ok_iff {product : Except ProblemKind Product}
    {host : Except ProblemKind (Option Text)} {port : Except ProblemKind (Option Int)}
    {database : Except ProblemKind Text} {username : Except ProblemKind (Option Text)}
    {password : Except ProblemKind Text} {ds : DataSource} :
    assemble product host port database username password = .ok ds ↔
      product = .ok ds.product ∧ host = .ok ds.host ∧ port = .ok ds.port ∧
        database = .ok ds.database ∧ username = .ok ds.username ∧ password = .ok ds.password ∧
        ds.serverProblem? = none := by
  constructor
  · intro h
    unfold assemble at h
    split at h
    · unfold checkServer at h
      split at h
      · cases h
      · rename_i hserver
        obtain rfl := Except.ok.inj h
        exact ⟨rfl, rfl, rfl, rfl, rfl, rfl, hserver⟩
    · cases h
  · intro h
    obtain ⟨rfl, rfl, rfl, rfl, rfl, rfl, hserver⟩ := h
    simp only [assemble, checkServer, hserver]

end DataSource

namespace Settings

variable {settings : Settings} {ds : DataSource}

theorem chosen_of_length_pos {name : Text} (h : 1 ≤ name.length) (other : Text) :
    ((some name).filter (!·.isEmpty)).getD other = name := by
  cases name with
  | nil => cases h
  | cons c name => rfl

/-- The name that is chosen fits, and the other fields do not depend on it. -/
theorem dataSource_eq_ok_iff {database : Option Text} : settings.dataSource database = .ok ds ↔
    .ok settings.product = (.ok ds.product : Except ProblemKind Product) ∧
      optionally DataSource.checkName settings.host = .ok ds.host ∧
      optionally DataSource.checkPort settings.port = .ok ds.port ∧
      (ds.database = (database.filter (!·.isEmpty)).getD settings.database ∧
        DataSource.IsDatabase ((database.filter (!·.isEmpty)).getD settings.database)) ∧
      optionally DataSource.checkName settings.username = .ok ds.username ∧
      DataSource.checkPassword settings.password = .ok ds.password ∧
      ds.serverProblem? = none := by
  rw [dataSource, DataSource.assemble_eq_ok_iff, DataSource.checkDatabase_eq_ok_iff]

theorem isDatabase_of_dataSource {database : Option Text}
    (h : settings.dataSource database = .ok ds) : DataSource.IsDatabase ds.database := by
  obtain ⟨-, -, -, ⟨hchosen, hname⟩, -⟩ := dataSource_eq_ok_iff.mp h
  rwa [hchosen]

theorem dataSource_of_isDatabase (h : settings.dataSource none = .ok ds) {name : Text}
    (hname : DataSource.IsDatabase name) :
    settings.dataSource (some name) = .ok { ds with database := name } := by
  obtain ⟨hproduct, hhost, hport, -, husername, hpassword, hserver⟩ := dataSource_eq_ok_iff.mp h
  refine dataSource_eq_ok_iff.mpr ⟨hproduct, hhost, hport, ?_, husername, hpassword, hserver⟩
  rw [chosen_of_length_pos hname.1]
  exact ⟨rfl, hname⟩

theorem dataSource_of_overlong (h : settings.dataSource none = .ok ds) {name : Text}
    (hname : 1024 < name.length) :
    settings.dataSource (some name) = .error [⟨some "database", .tooLong 1024⟩] := by
  have hcheck : DataSource.checkDatabase name = .error (.tooLong 1024) := by
    rw [DataSource.checkDatabase, bounded, if_neg (by omega), if_pos hname]
  obtain ⟨hproduct, hhost, hport, -, husername, hpassword, -⟩ := dataSource_eq_ok_iff.mp h
  rw [dataSource, chosen_of_length_pos (by omega), hcheck, hhost, hport, husername, hpassword]
  rfl

end Settings

end Config

namespace Session

/-! Starts -/

section Starts

variable {settings : Settings} {ds : DataSource} {given : Option DataSource}
  {database : Option Text} {softDelete : Option Bool}
  {connect : Product → Except StoreError Connection}

/-- A start calls the driver once, unless the data source has a problem. -/
theorem openings_start :
    (start settings given database softDelete connect).openings
      = match chooseSource settings given database with
        | .ok ds => [Opening.plan settings.connectTimeout ds]
        | .error _ => [] := by
  unfold start
  cases chooseSource settings given database with
  | error problems => rfl
  | ok ds =>
    dsimp only
    cases connect ds.product with
    | ok conn => rfl
    | error e =>
      dsimp only
      split <;> rfl

/-- All that a start takes from the settings and the given source is the source that is chosen. -/
theorem start_congr {given' : Option DataSource} {database' : Option Text}
    (h : chooseSource settings given database = chooseSource settings given' database') :
    start settings given database softDelete connect
      = start settings given' database' softDelete connect := by
  simp only [start, h]

theorem session_start_of_problems {problems : List Config.Problem}
    (h : settings.dataSource database = .error problems) :
    (start settings none database softDelete connect).session = .error (.invalid problems) := by
  rw [start, chooseSource, h]

theorem isDatabase_of_opening {opening : Opening}
    (h : opening ∈ (start settings none database softDelete connect).openings) :
    DataSource.IsDatabase opening.database := by
  rw [openings_start] at h
  cases hsource : chooseSource settings none database with
  | error problems => simp [hsource] at h
  | ok ds =>
    obtain rfl : opening = Opening.plan settings.connectTimeout ds := by simpa [hsource] using h
    rw [Opening.database_plan]
    exact Settings.isDatabase_of_dataSource hsource

end Starts

/-- A session over another database is started in the same way from the settings and from the data
source that they describe, if a data source may have such a database. If it may not, the driver is
not called in the same way: the settings never make it open such a database, and the data source
always does. -/
theorem start_over_other_database {settings : Settings} {ds : DataSource}
    (h : settings.dataSource none = .ok ds) (name : Text) (softDelete : Option Bool)
    (connect : Product → Except StoreError Connection) :
    (DataSource.IsDatabase name → start settings none (some name) softDelete connect
      = start settings (some ds) (some name) softDelete connect) ∧
    ((start settings none (some name) softDelete connect).openings
        = (start settings (some ds) (some name) softDelete connect).openings →
      DataSource.IsDatabase name) ∧
    (∀ opening ∈ (start settings none (some name) softDelete connect).openings,
      DataSource.IsDatabase opening.database) ∧
    ((∀ opening ∈ (start settings (some ds) (some name) softDelete connect).openings,
      DataSource.IsDatabase opening.database) ↔ DataSource.IsDatabase name) := by
  have hgiven : (start settings (some ds) (some name) softDelete connect).openings
      = [Opening.plan settings.connectTimeout { ds with database := name }] := openings_start
  have hcalled : (∀ opening ∈ (start settings (some ds) (some name) softDelete connect).openings,
      DataSource.IsDatabase opening.database) ↔ DataSource.IsDatabase name := by
    rw [hgiven, List.forall_mem_singleton, Opening.database_plan]
  refine ⟨?_, ?_, fun opening => isDatabase_of_opening, hcalled⟩
  · intro hfits
    exact start_congr (Settings.dataSource_of_isDatabase h hfits)
  · intro hsame
    refine hcalled.mp ?_
    rw [← hsame]
    exact fun opening => isDatabase_of_opening

/-- A name of the greatest length is opened on the server of the settings, either way. -/
theorem start_over_longest_name :
    Settings.dataSource ⟨.mysql, some ['h'], none, ['d'], some ['u'], [], 10, true⟩ none
      = .ok ⟨.mysql, some ['h'], none, ['d'], some ['u'], []⟩ ∧
    DataSource.IsDatabase (List.replicate 1024 'a') ∧
    start ⟨.mysql, some ['h'], none, ['d'], some ['u'], [], 10, true⟩ none
        (some (List.replicate 1024 'a')) none (fun _ => .ok ⟨.mysql true, {}, none⟩)
      = start ⟨.mysql, some ['h'], none, ['d'], some ['u'], [], 10, true⟩
        (some ⟨.mysql, some ['h'], none, ['d'], some ['u'], []⟩)
        (some (List.replicate 1024 'a')) none (fun _ => .ok ⟨.mysql true, {}, none⟩) := by
  have hsource : Settings.dataSource
      ⟨.mysql, some ['h'], none, ['d'], some ['u'], [], 10, true⟩ none
      = .ok ⟨.mysql, some ['h'], none, ['d'], some ['u'], []⟩ := by
    cbv
  have hname : DataSource.IsDatabase (List.replicate 1024 'a') := by
    rw [DataSource.IsDatabase, List.length_replicate]
    omega
  exact ⟨hsource, hname, (start_over_other_database hsource _ none _).1 hname⟩

/-- An empty name leaves the settings with their own database, and makes the data source open one
of no name; a name that is too long is a problem of the settings alone. -/
theorem start_over_unfit_name :
    Settings.dataSource {} none = .ok ⟨.sqlite, none, none, ":memory:".toList, none, []⟩ ∧
    (start {} none (some []) none fun _ => .ok ⟨.sqlite, {}, none⟩).openings
      = [.file ":memory:".toList 10] ∧
    (start {} (some ⟨.sqlite, none, none, ":memory:".toList, none, []⟩) (some []) none
        fun _ => .ok ⟨.sqlite, {}, none⟩).openings
      = [.file [] 10] ∧
    (start {} none (some (List.replicate 1025 'a')) none fun _ => .ok ⟨.sqlite, {}, none⟩).session
      = .error (.invalid [⟨some "database", .tooLong 1024⟩]) ∧
    (start {} (some ⟨.sqlite, none, none, ":memory:".toList, none, []⟩)
        (some (List.replicate 1025 'a')) none fun _ => .ok ⟨.sqlite, {}, none⟩).session
      = .ok ⟨.sqlite, true, some ⟨.sqlite, {}, none⟩⟩ ∧
    (start {} (some ⟨.sqlite, none, none, ":memory:".toList, none, []⟩)
        (some (List.replicate 1025 'a')) none fun _ => .ok ⟨.sqlite, {}, none⟩).openings
      = [.file (List.replicate 1025 'a') 10] := by
  have hsource : Settings.dataSource {} none
      = .ok ⟨.sqlite, none, none, ":memory:".toList, none, []⟩ := by
    cbv
  have hlength : (List.replicate 1025 'a').length = 1025 := List.length_replicate
  have hlong : 1024 < (List.replicate 1025 'a').length := by
    rw [hlength]
    exact Nat.lt_succ_self 1024
  exact ⟨hsource, rfl, rfl,
    session_start_of_problems (Settings.dataSource_of_overlong hsource hlong), rfl, rfl⟩

end Session

end GuardedSql
