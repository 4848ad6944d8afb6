import GenericIam.Scopes
import GenericIam.PermissionAlgebra

/-! What the seeded roles grant: the codes that the entries of a role definition are
expanded to, against what the matcher makes of the entries themselves. -/

namespace GenericIam.SeededRoles
open Table Database Identifiers Transaction Handlers
open AccountServices PermissionMatcher PermissionAlgebra

section Entries

/-- The codes that seeding maps for an entry: of a pattern the ones that begin with its text
without its first `.*`, of any other entry the code itself. -/
def StandsFor (entry code : String) : Prop :=
  if ".*".toList.isSuffixOf entry.toList then dropStar entry.toList <+: code.toList else code = entry

instance (entry code : String) : Decidable (StandsFor entry code) := by
  unfold StandsFor
  infer_instance

theorem mem_permissionsToAssign (allPerms : List PermissionEntity) (entry code : String) :
    (∃ ap ∈ permissionsToAssign allPerms entry, ap.code = code) ↔ (∃ ap ∈ allPerms, ap.code = code) ∧
      StandsFor entry code := by
  unfold permissionsToAssign StandsFor
  split
  · simp only [List.mem_filter, List.isPrefixOf_iff_prefix]
    constructor
    · intro holds
      obtain ⟨ap, ⟨member, begins⟩, rfl⟩ := holds
      exact ⟨⟨ap, member, rfl⟩, begins⟩
    · intro holds
      obtain ⟨⟨ap, member, rfl⟩, begins⟩ := holds
      exact ⟨ap, ⟨member, begins⟩, rfl⟩
  · simp only [Option.mem_toList]
    constructor
    · intro holds
      obtain ⟨ap, found, rfl⟩ := holds
      exact ⟨⟨ap, List.mem_of_find?_eq_some found, rfl⟩, by simpa using List.find?_some found⟩
    · intro holds
      obtain ⟨⟨ap, member, named⟩, rfl⟩ := holds
      obtain ⟨first, found⟩ : ∃ first,
          allPerms.find? (fun other => other.code == code) = some first := by
        rw [← Option.isSome_iff_exists, List.find?_isSome]
        exact ⟨ap, member, beq_iff_eq.mpr named⟩
      exact ⟨first, found, by simpa using List.find?_some found⟩

/-- No entry stands for a code that the entries do not permit, and every entry stands for
itself or is permitted by a code that one of them stands for. -/
structure Faithful (catalogue permissions : List String) : Prop where
  permitted : ∀ entry ∈ permissions, ∀ code ∈ catalogue, StandsFor entry code →
    hasPermission permissions code = true
  kept : ∀ entry ∈ permissions,
    StandsFor entry entry ∨ ∃ other ∈ permissions, ∃ code ∈ catalogue, StandsFor other code ∧
      covers code entry = true

/-- What the entries stand for permits what they permit. -/
theorem hasPermission_faithful {catalogue permissions codes : List String}
    (listed : ∀ entry ∈ permissions, entry ∈ catalogue)
    (expanded : ∀ code, code ∈ codes ↔ code ∈ catalogue ∧ ∃ entry ∈ permissions, StandsFor entry code)
    (faithful : Faithful catalogue permissions) (required : String) :
    hasPermission codes required = hasPermission permissions required := by
  obtain ⟨permitted, kept⟩ := faithful
  rw [Bool.eq_iff_iff]
  constructor
  · refine Scopes.hasPermission_trans fun code mapped => ?_
    obtain ⟨known, entry, member, stands⟩ := (expanded code).mp mapped
    exact permitted entry member code known stands
  · refine Scopes.hasPermission_trans fun entry member => ?_
    rw [hasPermission_iff_covers]
    rcases kept entry member with self | ⟨other, present, code, known, stands, covering⟩
    · exact ⟨entry, (expanded entry).mpr ⟨listed entry member, entry, member, self⟩, covers_self entry⟩
    · exact ⟨code, (expanded code).mpr ⟨known, other, present, stands⟩, covering⟩

theorem same_iff_faithful {catalogue permissions codes : List String}
    (listed : ∀ entry ∈ permissions, entry ∈ catalogue)
    (expanded : ∀ code, code ∈ codes ↔ code ∈ catalogue ∧ ∃ entry ∈ permissions, StandsFor entry code) :
    (∀ c ∈ catalogue, hasPermission codes c = hasPermission permissions c) ↔
      Faithful catalogue permissions := by
  constructor
  · intro same
    refine ⟨fun entry member code known stands => ?_, fun entry member => ?_⟩
    · rw [← same code known, hasPermission_iff_covers]
      exact ⟨code, (expanded code).mpr ⟨known, entry, member, stands⟩, covers_self code⟩
    · have granted : hasPermission codes entry = true := by
        rw [same entry (listed entry member), hasPermission_iff_covers]
        exact ⟨entry, member, covers_self entry⟩
      obtain ⟨code, mapped, covering⟩ := (hasPermission_iff_covers codes entry).mp granted
      obtain ⟨known, other, present, stands⟩ := (expanded code).mp mapped
      exact .inr ⟨other, present, code, known, stands, covering⟩
  · exact fun faithful c _ => hasPermission_faithful listed expanded faithful c

end Entries

/-! The seeding. -/

section Seeding
variable {Id : Type} {ids : Nat → Uuid} {tx : Tx (effects Id) Db} {db : Db}

def Mapped (db : Db) (roleId permissionId : Uuid) : Prop :=
  ∃ rp ∈ db.rolePermissions, rp.roleId = roleId ∧ rp.permissionId = permissionId

def seededRole (db : Db) (roleDef : RoleDefinition) : Option RoleEntity :=
  db.roles.findOne fun role => role.name == roleDef.name && role.isSystem && role.tenantId == none

def Assigned (allPerms : List PermissionEntity) (roleDef : RoleDefinition)
    (permissionId : Uuid) : Prop :=
  ∃ perm ∈ roleDef.permissions.flatMap (permissionsToAssign allPerms), perm.id = permissionId

abbrev Leaves (ids : Nat → Uuid) (handler : Handler Id Unit) (post : Db → Prop)
    (tx : Tx (effects Id) Db) : Prop :=
  wp (engine Id .bypassRls) ids ⟨fun _ _ => True, fun _ _ => True⟩ handler (fun _ after =>
    post after.db) (fun _ _ => True) tx

structure MapsOne (db : Db) (roleId permissionId : Uuid) (after : Db) : Prop where
  permissions : after.permissions = db.permissions
  roles : after.roles = db.roles
  mapped : ∀ role permission, Mapped after role permission ↔ Mapped db role permission ∨
    (role = roleId ∧ permission = permissionId)

theorem select_all {Row Key : Type} [Keyed Row Key] {table : Table Row} {where_ : Row → Bool}
    (all : ∀ row, where_ row = true) :
    table.select where_ = table := Table.ext (List.filter_eq_self.mpr fun row _ => all row)

theorem seen_roles (db : Db) : (db.seenBy .bypassRls).roles = db.roles := select_all fun _ => rfl

theorem seen_rolePermissions (db : Db) :
    (db.seenBy .bypassRls).rolePermissions = db.rolePermissions := select_all fun _ => rfl

theorem mapped_insert {row : RolePermissionEntity} {after : Db}
    (applied : (Write.insertRolePermission row).apply .bypassRls db = some after) :
    MapsOne db row.roleId row.permissionId after := by
  obtain ⟨rolePermissions, inserted, rfl⟩ := insertRolePermission_some applied
  refine ⟨rfl, rfl, fun role permission => ?_⟩
  simp only [Mapped, mem_insert inserted]
  constructor
  · intro holds
    obtain ⟨rp, before | rfl, rfl, rfl⟩ := holds
    · exact .inl ⟨rp, before, rfl, rfl⟩
    · exact .inr ⟨rfl, rfl⟩
  · intro holds
    rcases holds with ⟨rp, before, rfl, rfl⟩ | ⟨rfl, rfl⟩
    · exact ⟨rp, .inl before, rfl, rfl⟩
    · exact ⟨row, .inr rfl, rfl, rfl⟩

theorem leaves_seedMapping (roleId : Uuid) (permission : PermissionEntity) :
    Leaves ids (seedMapping roleId permission) (MapsOne tx.db roleId permission.id) tx := by
  unfold seedMapping
  simp only [Leaves, wp_bind, wp_visible, seen_rolePermissions]
  split
  · next rp found =>
    obtain ⟨member, matched⟩ := findOne_some found
    simp only [Bool.and_eq_true, beq_iff_eq] at matched
    refine ⟨rfl, rfl, fun role permission => (or_iff_left_of_imp ?_).symm⟩
    intro holds
    obtain ⟨rfl, rfl⟩ := holds
    exact ⟨rp, member, matched⟩
  · simp only [wp_bind, wp_newId]
    exact wp_persist trivial (fun _ applied => mapped_insert applied) trivial

structure MapsAll (allPerms : List PermissionEntity) (db : Db) (roleDef : RoleDefinition)
    (role : RoleEntity) (after : Db) : Prop where
  permissions : after.permissions = db.permissions
  seeded : seededRole after roleDef = some role
  others : ∀ other found, seededRole db other = some found → seededRole after other = some found
  mapped : ∀ roleId permission, Mapped after roleId permission ↔
    Mapped db roleId permission ∨ (roleId = role.id ∧ Assigned allPerms roleDef permission)

theorem leaves_mappings {allPerms : List PermissionEntity} {roleDef : RoleDefinition}
    (role : RoleEntity) (seeded : seededRole tx.db roleDef = some role) :
    Leaves ids
      (forEach (roleDef.permissions.flatMap (permissionsToAssign allPerms)) (seedMapping role.id))
      (MapsAll allPerms tx.db roleDef role) tx := by
  refine @wp_forEach_done _ _ _ _ _ _ _ _ (fun done (during : Tx (effects Id) Db) =>
    during.db.permissions = tx.db.permissions ∧ during.db.roles = tx.db.roles ∧
      ∀ roleId permission, Mapped during.db roleId permission ↔
        Mapped tx.db roleId permission ∨
          (roleId = role.id ∧ ∃ perm ∈ done, perm.id = permission)) _ _ _ ?_ ?_ ?_
  · simp
  · rintro done perm rest - during ⟨permissions, roles, mapped⟩
    refine wp_mono (leaves_seedMapping role.id perm) ?_ fun _ _ _ => trivial
    intro _ after one
    refine ⟨one.permissions.trans permissions, one.roles.trans roles, fun roleId permission => ?_⟩
    rw [one.mapped, mapped]
    simp only [List.mem_append, List.mem_singleton, or_and_right, exists_or, and_or_left,
      exists_eq_left, or_assoc,
      @eq_comm _ perm.id]
  · intro after holds
    obtain ⟨permissions, roles, mapped⟩ := holds
    refine ⟨permissions, ?_, fun other found before => ?_, mapped⟩
    · rw [seededRole, roles]
      exact seeded
    · rw [seededRole, roles]
      exact before

theorem leaves_seedRole (clock : Uuid → Time) (allPerms : List PermissionEntity)
    (roleDef : RoleDefinition) :
    Leaves ids (seedRole clock allPerms roleDef) (fun after => ∃ role,
      MapsAll allPerms tx.db roleDef role after) tx := by
  unfold seedRole findOrSeedRole
  simp only [Leaves, wp_bind, wp_visible, seen_roles]
  split
  · next role found =>
    simp only [wp_pure]
    exact wp_mono (leaves_mappings role found) (fun _ _ all => ⟨role, all⟩) fun _ _ _ => trivial
  · next missing =>
    simp only [wp_bind, wp_newId]
    refine wp_persist trivial ?_ trivial
    intro db applied
    obtain ⟨roles, inserted, rfl⟩ := insertRole_some applied
    let role : RoleEntity := {
      id := ids tx.generated, tenantId := none, name := roleDef.name, description :=
        some roleDef.description, isSystem := true,
      createdAt := clock (ids tx.generated), updatedAt := clock (ids tx.generated) }
    have grown : ∀ other,
        ({ tx.db with roles } : Db).roles.findOne (fun role => role.name == other && role.isSystem &&
          role.tenantId == none) =
          (tx.db.roles.findOne fun role => role.name == other && role.isSystem &&
            role.tenantId == none).or
            (if roleDef.name = other then some role else none) := by
      intro other
      rw [findOne, (insert_some inserted).2, List.find?_append]
      simp [findOne, List.find?_singleton, role]
    simp only [wp_pure]
    refine wp_mono (leaves_mappings role ?_) ?_ fun _ _ _ => trivial
    · rw [seededRole, grown, missing]
      simp
    · intro _ after all
      refine ⟨_, all.permissions, all.seeded, fun other found before => ?_, all.mapped⟩
      refine all.others other found ?_
      rw [seededRole, grown]
      rw [seededRole] at before
      rw [before]
      rfl

/-- What seeding leaves behind: the catalogue as it was, a role for every definition, and the
mappings of the definitions. -/
structure SeedsAll (db : Db) (rolesData : List RoleDefinition) (after : Db) : Prop where
  permissions : after.permissions = db.permissions
  seeded : ∀ roleDef ∈ rolesData, ∃ role, seededRole after roleDef = some role
  mapped : ∀ roleId permission, Mapped after roleId permission ↔ Mapped db roleId permission ∨
    ∃ roleDef ∈ rolesData, ∃ role, seededRole after roleDef = some role ∧ roleId = role.id ∧
      Assigned (db.permissions.find fun _ => true) roleDef permission

theorem leaves_seedRoles (clock : Uuid → Time) (rolesData : List RoleDefinition) :
    Leaves ids (seedRoles clock rolesData) (SeedsAll tx.db rolesData) tx := by
  unfold seedRoles
  simp only [Leaves, wp_bind, wp_visible]
  refine @wp_forEach_done _ _ _ _ _ _ _ _ (fun done (during : Tx (effects Id) Db) =>
    SeedsAll tx.db done during.db) _ _ _ ?_ ?_ fun _ all => all
  · exact ⟨rfl, by simp, by simp⟩
  · rintro done roleDef rest - during sofar
    refine wp_mono (leaves_seedRole clock _ roleDef) ?_ fun _ _ _ => trivial
    intro _ after holds
    obtain ⟨role, one⟩ := holds
    refine ⟨one.permissions.trans sofar.permissions, ?_, fun roleId permission => ?_⟩
    · intro other member
      rcases List.mem_append.mp member with earlier | last
      · obtain ⟨found, before⟩ := sofar.seeded other earlier
        exact ⟨found, one.others other found before⟩
      · rw [List.mem_singleton.mp last]
        exact ⟨role, one.seeded⟩
    · rw [one.mapped, sofar.mapped, or_assoc]
      refine or_congr_right ?_
      constructor
      · intro holds
        rcases holds with ⟨other, earlier, found, before, same, assigned⟩ | ⟨same, assigned⟩
        · exact ⟨other, List.mem_append_left _ earlier, found,
            one.others other found before, same, assigned⟩
        · exact ⟨roleDef, by simp, role, one.seeded, same, assigned⟩
      · intro holds
        obtain ⟨other, member, found, later, same, assigned⟩ := holds
        rcases List.mem_append.mp member with earlier | last
        · obtain ⟨known, before⟩ := sofar.seeded other earlier
          have still := one.others other known before
          rw [later] at still
          cases still
          exact .inl ⟨other, earlier, found, before, same, assigned⟩
        · obtain rfl := List.mem_singleton.mp last
          rw [one.seeded] at later
          cases later
          exact .inr ⟨same, assigned⟩

def catalogue (db : Db) : List String := db.permissions.rows.map (·.code)

theorem mem_of_assigned {allPerms : List PermissionEntity} {entry : String} {ap : PermissionEntity}
    (member : ap ∈ permissionsToAssign allPerms entry) : ap ∈ allPerms := by
  unfold permissionsToAssign at member
  split at member
  · exact List.mem_of_mem_filter member
  · exact List.mem_of_find?_eq_some (Option.mem_toList.mp member)

theorem mem_roleCodes {roleId : Uuid} {code : String} :
    code ∈ roleCodes db roleId ↔ ∃ p ∈ db.permissions, Mapped db roleId p.id ∧ p.code = code := by
  simp only [roleCodes, List.mem_map, mem_find, any_iff, Bool.and_eq_true, beq_iff_eq,
    Mapped, and_assoc]

/-- The codes mapped to a seeded role are the ones that its entries stand for. -/
theorem mem_roleCodes_seeded {rolesData : List RoleDefinition} {after : Db}
    (all : SeedsAll db rolesData after) (unmapped : db.rolePermissions.rows = [])
    (names : (rolesData.map RoleDefinition.name).Nodup) {roleDef : RoleDefinition}
    (member : roleDef ∈ rolesData) {role : RoleEntity}
    (seeded : seededRole after roleDef = some role) (code : String) :
    code ∈ roleCodes after role.id ↔ code ∈ catalogue db ∧ ∃ entry ∈ roleDef.permissions,
      StandsFor entry code := by
  have none_before : ∀ permission, ¬ Mapped db role.id permission := by
    intro permission holds
    obtain ⟨rp, present, -⟩ := holds
    rw [mem_rows, unmapped] at present
    cases present
  have own : ∀ permission, Mapped after role.id permission ↔
      Assigned (db.permissions.find fun _ => true) roleDef permission := by
    intro permission
    rw [all.mapped, or_iff_right (none_before permission)]
    constructor
    · intro holds
      obtain ⟨other, present, found, known, same, assigned⟩ := holds
      obtain ⟨stored, matched⟩ := findOne_some seeded
      obtain ⟨storedOther, matchedOther⟩ := findOne_some known
      have one : role = found := eq_of_key_eq stored storedOther same
      subst one
      simp only [Bool.and_eq_true, beq_iff_eq] at matched matchedOther
      have definition : other = roleDef :=
        List.inj_on_of_nodup_map names present member (matchedOther.1.1.symm.trans matched.1.1)
      exact definition ▸ assigned
    · intro assigned
      exact ⟨roleDef, member, role, seeded, rfl, assigned⟩
  have known : ∀ {ap}, ap ∈ db.permissions.find (fun _ => true) ↔ ap ∈ db.permissions := by simp
  rw [mem_roleCodes, all.permissions]
  simp only [own, Assigned, List.mem_flatMap]
  constructor
  · intro holds
    obtain ⟨p, present, ⟨ap, ⟨entry, listed, assigned⟩, same⟩, rfl⟩ := holds
    have one : ap = p := eq_of_key_eq (known.mp (mem_of_assigned assigned)) present same
    obtain ⟨-, stands⟩ := (mem_permissionsToAssign _ entry p.code).mp ⟨ap, assigned, congrArg _ one⟩
    exact ⟨List.mem_map_of_mem present, entry, listed, stands⟩
  · intro holds
    obtain ⟨present, entry, listed, stands⟩ := holds
    obtain ⟨p, stored, named⟩ := List.mem_map.mp present
    obtain ⟨ap, assigned, same⟩ :=
      (mem_permissionsToAssign (db.permissions.find fun _ => true) entry code).mpr
      ⟨⟨p, known.mpr stored, named⟩, stands⟩
    exact ⟨ap, known.mp (mem_of_assigned assigned), ⟨ap, ⟨entry, listed, assigned⟩, rfl⟩, same⟩

def seededDb (clock : Uuid → Time) (ids : Nat → Uuid)
    (rolesData : List RoleDefinition) (db : Db) : Db :=
  (run (engine Uuid .bypassRls) ids (seedRoles clock rolesData) { db }).2.db

/-- Every definition has a role, and the role permits of the catalogue what the listed
entries permit. -/
def GrantsWhatIsListed (db : Db) (rolesData : List RoleDefinition) : Prop :=
  ∀ roleDef ∈ rolesData, ∃ role, seededRole db roleDef = some role ∧
    ∀ c ∈ catalogue db, hasPermission (roleCodes db role.id) c = hasPermission roleDef.permissions c

/-- After a seeding that starts without mappings, the roles grant what their entries mean
exactly when the entries of every definition are faithful to the catalogue. -/
theorem grantsWhatIsListed_iff (clock : Uuid → Time) (ids : Nat → Uuid) (db : Db)
    (rolesData : List RoleDefinition) (unmapped : db.rolePermissions.rows = [])
    (names : (rolesData.map RoleDefinition.name).Nodup)
    (listed : ∀ roleDef ∈ rolesData, ∀ entry ∈ roleDef.permissions, entry ∈ catalogue db)
    (returned : (run (engine Uuid .bypassRls) ids (seedRoles clock rolesData) { db }).1 = .ok ()) :
    GrantsWhatIsListed (seededDb clock ids rolesData db) rolesData ↔
      ∀ roleDef ∈ rolesData, Faithful (catalogue db) roleDef.permissions := by
  have all : SeedsAll db rolesData (seededDb clock ids rolesData db) := by
    have outcome := wp_run (@leaves_seedRoles Uuid ids { db } clock rolesData)
    unfold seededDb
    cases ran : run (engine Uuid .bypassRls) ids (seedRoles clock rolesData) { db } with
    | mk answer tx =>
      rw [ran] at outcome returned
      cases returned
      exact outcome
  have same : catalogue (seededDb clock ids rolesData db) = catalogue db := by
    rw [catalogue, all.permissions, catalogue]
  unfold GrantsWhatIsListed
  rw [same]
  refine forall₂_congr fun roleDef member => ?_
  obtain ⟨role, seeded⟩ := all.seeded roleDef member
  rw [← same_iff_faithful (listed roleDef member)
    (mem_roleCodes_seeded all unmapped names member seeded)]
  constructor
  · intro holds
    obtain ⟨other, again, grants⟩ := holds
    rw [seeded] at again
    cases again
    exact grants
  · intro grants
    exact ⟨role, seeded, grants⟩

end Seeding

/-! A service whose name begins with the name of another one. -/

section Example

def countedFrom (start : Nat) (index : Nat) : Uuid := BitVec.ofNat 128 (start + index)

def services : Db :=
  (run (engine Uuid .bypassRls) (countedFrom 1)
    (seedPermissions ["user.*", "user.read", "users.read", "role.*"]) { db := {} }).2.db

def tenantAdmin : RoleDefinition := ⟨"Tenant Admin", "Full access to tenant resources", ["user.*"]⟩

def roleAdmin : RoleDefinition := ⟨"Role Admin", "Manages the roles", ["role.*", "user.read"]⟩

/-- The administrator of `user` may read `users`. -/
theorem neighbour_granted :
    services.rolePermissions.rows = [] ∧ ([tenantAdmin].map RoleDefinition.name).Nodup ∧
    (∀ roleDef ∈ [tenantAdmin], ∀ entry ∈ roleDef.permissions, entry ∈ catalogue services) ∧
      (run (engine Uuid .bypassRls) (countedFrom 11) (seedRoles (fun _ => 0) [tenantAdmin])
        { db := services }).1 = .ok () ∧
        ¬ GrantsWhatIsListed (seededDb (fun _ => 0) (countedFrom 11) [tenantAdmin] services)
          [tenantAdmin] := by
  refine ⟨by decide, by decide, by decide, rfl, fun grants => ?_⟩
  obtain ⟨role, seeded, same⟩ := grants tenantAdmin (by decide)
  have found : seededRole (seededDb (fun _ => 0) (countedFrom 11) [tenantAdmin] services) tenantAdmin =
      some {
        id := countedFrom 11 0, tenantId := none, name := "Tenant Admin",
        description := some "Full access to tenant resources", isSystem := true } := by decide
  rw [found] at seeded
  cases seeded
  have known : "users.read" ∈ catalogue
    (seededDb (fun _ => 0) (countedFrom 11) [tenantAdmin] services) := by decide
  exact absurd (same "users.read" known) (by decide)

theorem grantsWhatIsListed_iff_roleAdmin :
    GrantsWhatIsListed (seededDb (fun _ => 0) (countedFrom 11) [roleAdmin] services) [roleAdmin] ↔
      ∀ roleDef ∈ [roleAdmin], Faithful (catalogue services) roleDef.permissions :=
  grantsWhatIsListed_iff (fun _ => 0) (countedFrom 11) services [roleAdmin] (by decide)
    (by decide) (by decide) rfl

end Example

end GenericIam.SeededRoles
