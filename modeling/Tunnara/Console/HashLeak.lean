/-
# The list of users over HTTP

The commands of the internal API and of the desktop keep the hashes of the users to the table of
users, but for one: `user_list` over HTTP selects every column and answers with the rows as they
are stored, so that it shows the hash of every user that it lists.
-/

import Tunnara.Console.Desktop
import Tunnara.Console.HttpHashes

namespace Tunnara.Console.Secrecy

open Sql Attempt AppCommands

variable {host : Host}

theorem veiled_map {α β : Type} {m : Action α} {m' : Action α} (h : Alike (Stores host) Eq m m')
    {f : α → β} : Alike (Stores host) Eq (f <$> m) (f <$> m') :=
  h.map fun _ _ heq => congrArg f heq

theorem alike_desktopAnswer {draw : String → Except String String} (hdraw : Salts host draw)
    {command : DesktopCommand} :
    Alike (Stores host) Eq (desktopAnswer host command)
      (desktopAnswer (resalted host draw) command) := by
  cases command with apply veiled_map
  | authLogin login senha => exact veiled_authLogin
  | authRestore token => exact veiled_authRestore
  | authLogout token => exact veiled_authLogout
  | authChangePassword token current new => exact alike_authChangePassword hdraw
  | permissionCatalog token => exact veiled_permissionCatalog
  | profileList token filters => exact veiled_profileList
  | profileGet token id => exact veiled_profileGet
  | profileSave token payload => exact veiled_profileSave
  | profileDelete token id => exact veiled_profileDelete
  | userList token filters => exact veiled_userList
  | userGet token id => exact veiled_userGet
  | userPolicyGet token => exact veiled_userPolicyGet
  | userPolicySave token payload => exact veiled_userPolicySave
  | userSave token payload => exact alike_userSave hdraw
  | userDelete token id => exact veiled_userDelete
  | entityList entity search => exact veiled_entityList
  | entitySave entity payload => exact veiled_entitySave
  | entityDelete entity id => exact veiled_entityDelete
  | comboList entity => exact veiled_comboList
  | entityProviderList entity search => exact veiled_entityProviderList
  | providerEntityGet entity id => exact veiled_providerEntityGet
  | providerEntityCreate entity payload => exact veiled_providerEntityCreate
  | providerEntityUpdate entity payload => exact veiled_providerEntityUpdate
  | providerEntityDelete entity id => exact veiled_providerEntityDelete

/-- The answer of a command, and the rows of the logs after it. -/
def shown (run : Except String Value × Store) :
    Except String Value × (Place → Table → List Row) :=
  (run.1, fun place table =>
    if table ∈ [Table.auditLogs, .syncQueue, .appLogs] then (run.2 place).rows table else [])

/-- Neither the stored hashes nor those that it makes show in what the command shows. -/
def KeepsHashes (command : Host → Action Value) (host : Host) (s : Store) : Prop :=
  ∀ draw s', Salts host draw → Stores host s s' →
    shown (exec (command host) s) = shown (exec (command (resalted host draw)) s')

theorem shown_eq {s s' : Store} (h : Stores host s s') {answer : Except String Value} :
    shown (answer, s) = shown (answer, s') := by
  refine Prod.ext rfl ?_
  funext place table
  unfold shown
  dsimp only
  split
  · rename_i hlog
    refine rows_eq (h place) ?_
    rintro rfl
    exact absurd hlog (by decide)
  · rfl

theorem keepsHashes_of_alike {command : Host → Action Value} (s : Store)
    (h : ∀ draw, Salts host draw →
      Alike (Stores host) Eq (command host) (command (resalted host draw))) :
    KeepsHashes command host s := by
  intro draw s' hdraw hs
  obtain ⟨hend, hstores⟩ := h draw hdraw s s' hs
  calc shown (exec (command host) s)
      = shown ((exec (command (resalted host draw)) s').1, (exec (command host) s).2) := by
        rw [← hend.eq]
    _ = shown (exec (command (resalted host draw)) s') := shown_eq hstores

/-- The rows that the branch `user_list` lists. -/
def listedUsers (host : Host) (args : Args) (s : Store) : List Row :=
  searched host .usuarios (searchFromArgs args) ["nome", "login", "email"] ((s .file).rows .usuarios)

theorem exec_userList (args : Args) (s : Store) :
    exec (AppCommands.userList host args) s =
      (.ok (.array ((Database.sorted (host.dialect .file) "nome" (listedUsers host args s)).map
        fun user => .object (record .usuarios user))), s) := by
  have hmap : (Database.sorted (host.dialect .file) "nome" (listedUsers host args s)).map
      (fun user => Value.object (record .usuarios user)) =
      ((Database.sorted (host.dialect .file) "nome" (listedUsers host args s)).map
        (record .usuarios)).map .object := List.map_map.symm
  rw [hmap]
  rfl

section

variable {rows others : List Row} (h : List.Forall₂ ((hashVeil host).Rows .usuarios) rows others)
include h

theorem searched_rel {search : String} :
    List.Forall₂ ((hashVeil host).Rows .usuarios)
      (searched host .usuarios search ["nome", "login", "email"] rows)
      (searched host .usuarios search ["nome", "login", "email"] others) := by
  unfold searched
  dsimp only
  split
  · exact h
  · exact Veil.filter_rel h fun row other hrow =>
      blind (f := matchesSearch host _ search) (fun _ => rfl) hrow

theorem rows_eq_of_no_hash (hnone : ∀ user ∈ rows, ∀ hash, user "senha_hash" ≠ .text hash) :
    rows = others := by
  induction h with
  | nil => rfl
  | @cons row other _ _ hrow _ ih =>
    rcases hash_cases hrow with rfl | ⟨hash, _, rfl, -, -⟩
    · rw [ih fun user hmem => hnone user (List.mem_cons_of_mem _ hmem)]
    · exact absurd (Function.update_self _ _ _) (hnone _ List.mem_cons_self hash)

end

/-- The rows with one hash in place of another. -/
def rehash (hash hash' : String) (user : Row) : Row :=
  if user "senha_hash" = .text hash then Function.update user "senha_hash" (.text hash') else user

def rehashed (hash hash' : String) (s : Store) : Store := fun place =>
  { s place with
    rows := fun table =>
      if table = .usuarios then ((s place).rows table).map (rehash hash hash')
      else (s place).rows table }

theorem rehash_of_ne {hash hash' name : String} (h : name ≠ "senha_hash") (user : Row) :
    rehash hash hash' user name = user name := by
  unfold rehash
  split
  · exact Function.update_of_ne h _ _
  · rfl

theorem stores_rehashed {hash hash' : String}
    (h : ∀ password, host.verifyPassword password hash = host.verifyPassword password hash')
    {s : Store} : Stores host s (rehashed hash hash' s) := by
  intro place
  refine ⟨fun table => ?_, rfl, rfl⟩
  unfold rehashed
  dsimp only
  split
  · rename_i htable
    subst htable
    rw [List.forall₂_map_right_iff]
    refine List.forall₂_same.2 fun user _ name => ?_
    by_cases hname : name = "senha_hash"
    · subst hname
      unfold rehash
      split
      · rename_i huser
        rw [huser, Function.update_self]
        exact .inr ⟨hash, hash', rfl, rfl, h⟩
      · exact Veil.values_refl
    · rw [rehash_of_ne hname]
      exact Veil.values_refl
  · exact List.forall₂_same.2 fun user _ => Veil.rows_refl

theorem listedUsers_rehashed (hash hash' : String) (args : Args) (s : Store) :
    listedUsers host args (rehashed hash hash' s) =
      (listedUsers host args s).map (rehash hash hash') := by
  have hmatches (columns : List String) (hcolumns : "senha_hash" ∉ columns) (search : String)
      (user : Row) :
      matchesSearch host columns search (rehash hash hash' user) =
        matchesSearch host columns search user := by
    unfold matchesSearch
    rw [Bool.eq_iff_iff, List.any_eq_true, List.any_eq_true]
    refine exists_congr fun column => and_congr_right fun hmem => ?_
    rw [rehash_of_ne fun heq => hcolumns (heq ▸ hmem)]
  unfold listedUsers searched rehashed
  dsimp only
  rw [if_pos rfl]
  split
  · rfl
  · rw [List.filter_map]
    refine congrArg _ (List.filter_congr fun user _ => ?_)
    exact hmatches _ (by decide) _ user

theorem sorted_rehash (hash hash' : String) (users : List Row) :
    Database.sorted (host.dialect .file) "nome" (users.map (rehash hash hash')) =
      (Database.sorted (host.dialect .file) "nome" users).map (rehash hash hash') := by
  refine (List.map_insertionSort _ _ _ _ fun user _ other _ => ?_).symm
  rw [rehash_of_ne (by decide), rehash_of_ne (by decide)]

theorem not_keepsHashes_userList {args : Args} {s : Store} {user : Row} {hash hash' : String}
    (huser : user ∈ listedUsers host args s) (hhash : user "senha_hash" = .text hash)
    (hne : hash' ≠ hash)
    (hsame : ∀ password, host.verifyPassword password hash = host.verifyPassword password hash') :
    ¬ KeepsHashes (fun host => AppCommands.userList host args) host s := by
  intro h
  have hdraw : Salts host host.hashPassword := fun password =>
    sameEnd_refl.mono fun hash _ heq => heq ▸ ⟨rfl, fun _ => rfl⟩
  have hanswers := congrArg Prod.fst (h _ _ hdraw (stores_rehashed hsame))
  rw [exec_userList, exec_userList] at hanswers
  rw [listedUsers_rehashed, sorted_rehash, List.map_map] at hanswers
  have hlists := Value.array.inj (Except.ok.inj hanswers)
  have hlisted : user ∈ Database.sorted (host.dialect .file) "nome" (listedUsers host args s) :=
    (List.perm_insertionSort _ _).mem_iff.2 huser
  have hrecord := Value.object.inj (List.map_inj_left.1 hlists user hlisted)
  have hcolumn : "senha_hash" ∈ catalog.columnNames .usuarios := by decide
  unfold record at hrecord
  have hpair := List.map_inj_left.1 hrecord "senha_hash" hcolumn
  unfold rehash at hpair
  rw [hhash, if_pos rfl, Function.update_self] at hpair
  exact hne (Value.string.inj (Prod.mk.inj hpair).2).symm

theorem keepsHashes_userList {args : Args} {s : Store}
    (hnone : ∀ user ∈ listedUsers host args s, ∀ hash, user "senha_hash" ≠ .text hash) :
    KeepsHashes (fun host => AppCommands.userList host args) host s := by
  intro draw s' _ hs
  have hlisted : listedUsers host args s = listedUsers (resalted host draw) args s' :=
    rows_eq_of_no_hash (searched_rel ((hs .file).rows .usuarios)) hnone
  rw [exec_userList, exec_userList, hlisted]
  exact shown_eq hs

theorem ofName_userList {name : String} :
    Command.ofName name = .data .userList ↔ name = "user_list" := by
  constructor
  · intro h
    unfold Command.ofName at h
    split at h
    · rename_i command hlookup
      cases h
      obtain ⟨before, after, hnames, -⟩ := List.lookup_eq_some_iff.1 hlookup
      have hmem : (name, DataCommand.userList) ∈ dataNames := hnames ▸ List.mem_append_cons_self
      simpa [dataNames] using hmem
    · cases h
    · unfold suffixCommand at h
      split_ifs at h <;> cases h
  · rintro rfl
    decide

/-- The hashes of the users stay in their table, except that the list of users over HTTP shows
those of the users it lists. -/
theorem keepsHashes_iff (hother : ∀ hash, ∃ hash', hash' ≠ hash ∧
      ∀ password, host.verifyPassword password hash = host.verifyPassword password hash')
    (api : ApiState) (s : Store) :
    (∀ command, KeepsHashes (fun host => desktopAnswer host command) host s) ∧
      ∀ name args, KeepsHashes (fun host => executeCommand host api name args) host s ↔
        ¬ (name = "user_list" ∧ ∃ user ∈ listedUsers host args s, ∃ hash,
          user "senha_hash" = .text hash) := by
  refine ⟨fun command => keepsHashes_of_alike s fun draw hdraw => alike_desktopAnswer hdraw,
    fun name args => ⟨?_, fun hnone => ?_⟩⟩
  · rintro hkeeps ⟨rfl, user, huser, hash, hhash⟩
    obtain ⟨hash', hne, hsame⟩ := hother hash
    exact not_keepsHashes_userList huser hhash hne hsame hkeeps
  · unfold executeCommand
    by_cases hlist : name = "user_list"
    · rw [ofName_userList.2 hlist]
      exact keepsHashes_userList fun user huser hash hhash => hnone ⟨hlist, user, huser, hash, hhash⟩
    · apply keepsHashes_of_alike
      intro draw hdraw
      cases hcommand : Command.ofName name with
      | fixed command => exact veiled_ofExcept
      | data command =>
        refine alike_dataAnswer hdraw fun heq => hlist ?_
        exact ofName_userList.1 (heq ▸ hcommand)
      | unknown => exact veiled_throw

theorem plainHost_other (hash : String) : ∃ hash', hash' ≠ hash ∧ ∀ password,
    plainHost.verifyPassword password hash = plainHost.verifyPassword password hash' := by
  refine ⟨String.ofList ('x' :: hash.toList), fun heq => ?_, fun password => ?_⟩
  · have hlength := congrArg (fun s : String => s.toList.length) heq
    simp at hlength
  · unfold plainHost
    simp

theorem keepsHashes_userGet :
    KeepsHashes (fun host => executeCommand host plainApi "user_get" []) plainHost oneUser :=
  ((keepsHashes_iff plainHost_other plainApi oneUser).2 "user_get" []).2 fun h =>
    absurd h.1 (by decide)

theorem userList_shows_hash :
    (∃ fields, (exec (executeCommand plainHost plainApi "user_list" []) oneUser).1 =
        .ok (.array [.object fields]) ∧
      getField fields "senha_hash" = some (.string "salt$segredo")) ∧
      ¬ KeepsHashes (fun host => executeCommand host plainApi "user_list" []) plainHost oneUser := by
  refine ⟨⟨_, rfl, rfl⟩, ?_⟩
  obtain ⟨hash', hne, hsame⟩ := plainHost_other "salt$segredo"
  exact @not_keepsHashes_userList plainHost [] oneUser ana _ hash' (List.mem_singleton.2 rfl) rfl
    hne hsame

end Tunnara.Console.Secrecy
