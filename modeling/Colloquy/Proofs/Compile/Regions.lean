import Colloquy.Proofs.Compile.Closed
import Colloquy.Proofs.Flow.Key
import Colloquy.Proofs.Flow.Naming

/-!
# Regions of keys

All that is compiled under a path is registered there or further down. As long as the keys of this region are
free, none of them is found taken. So parts that are compiled one after the other do not get in each other's
way if they are compiled in regions that have no path in common.
-/

namespace Colloquy

namespace FlowPath

variable {path other : FlowPath} {S T : String → Prop}

/-- A path is at another one or further down. -/
def Under (path other : FlowPath) : Prop := path <+: other

/-- A path is further down than another one, under an id of a certain kind. -/
def Beneath (path : FlowPath) (S : String → Prop) (other : FlowPath) : Prop :=
  ∃ id, S id ∧ Under (path ++ [.name id]) other

theorem under_of_eq (h : other = path) : path.Under other := by
  rw [h]
  exact List.prefix_refl path

theorem Beneath.mono (h : path.Beneath S other) (hids : ∀ id, S id → T id) : path.Beneath T other := by
  obtain ⟨id, hid, hunder⟩ := h
  exact ⟨id, hids id hid, hunder⟩

theorem Beneath.under (h : path.Beneath S other) : path.Under other := by
  obtain ⟨id, -, hunder⟩ := h
  exact (List.prefix_append path [.name id]).trans hunder

theorem not_beneath_self : ¬path.Beneath S path := by
  rintro ⟨id, -, hunder⟩
  have hlength := hunder.length_le
  rw [List.length_append, List.length_singleton] at hlength
  omega

private theorem beneath_disjoint (h : ∀ id, S id → ¬T id) (hs : path.Beneath S other) : ¬path.Beneath T other := by
  rintro ⟨id', hid', hunder'⟩
  obtain ⟨id, hid, hunder⟩ := hs
  have heq := (List.prefix_of_prefix_length_le hunder hunder' (by simp)).eq_of_length (by simp)
  obtain rfl : id = id' := by simpa using heq
  exact h id hid hid'

theorem Plain.extend (h : path.Plain) {id : String} (hid : FlowKey.isSegment id = true) :
    FlowPath.Plain (path ++ [.name id]) := by
  intro t ht
  rcases List.mem_append.mp ht with ht | ht
  · exact h t ht
  · exact ⟨id, by simpa using ht, hid⟩

theorem append_relative {own : FlowPath} {id : String} (hid : isAbsolute id = false) (h : append path id = .ok own) :
    own = path ++ [.name id] ∧ FlowKey.isSegment id = true := by
  unfold append appendIds readId at h
  cases hread : isId id with
  | false => simp [hread] at h
  | true =>
    obtain rfl : path ++ [.name id] = own := by simpa [hread, appendIds, extend, hid] using h
    exact ⟨rfl, by simp [FlowKey.isSegment, hread, hid]⟩

end FlowPath

def Error.SparesKeys (e : Error) : Prop := ∀ key, e ≠ .duplicateKey key

private theorem Error.sparesKeys_of_ordinary {e : Error} (h : e.isOrdinary = true) : e.SparesKeys := by
  rintro key rfl
  cases h

namespace Compile

variable {α β : Type} {R S T : FlowPath → Prop}

/-- How compiling may end: only paths of a region come to be registered, and no key is found taken. -/
def Adds (R : FlowPath → Prop) (p : Program) : EStateM.Result Error Program α → Prop
  | .ok _ q => ∀ path : FlowPath, path.Plain → q.Knows path → p.Knows path ∨ R path
  | .error e _ => e.SparesKeys

/-- Whenever the keys of a region are free, compiling stays within the region. -/
def Within (R : FlowPath → Prop) (x : Compile α) : Prop :=
  ∀ p : Program, (∀ path : FlowPath, R path → path.Plain → ¬p.Knows path) → Adds R p (x p)

/-- Compiling that registers nothing. -/
abbrev Quiet (x : Compile α) : Prop := Within (fun _ => False) x

theorem Within.mono {x : Compile α} (hx : Within R x) (h : ∀ path, R path → S path) : Within S x := by
  intro p hfree
  have hadds := hx p fun path hpath => hfree path (h path hpath)
  cases hr : x p with
  | error e q =>
    rw [hr] at hadds
    exact hadds
  | ok a q =>
    rw [hr] at hadds
    exact fun path hplain hknows => (hadds path hplain hknows).imp_right (h path)

theorem Quiet.within {x : Compile α} (hx : Quiet x) : Within R x := hx.mono fun _ => False.elim

theorem Within.bind {x : Compile α} {f : α → Compile β} (hx : Within R x) (hf : ∀ a, Within S (f a))
    (hdisjoint : ∀ path, R path → ¬S path) : Within (fun path => R path ∨ S path) (x >>= f) := by
  intro p hfree
  have hfirst := hx p fun path hpath => hfree path (.inl hpath)
  change Adds _ p (EStateM.bind x f p)
  unfold EStateM.bind
  cases hr : x p with
  | error e q =>
    rw [hr] at hfirst
    exact hfirst
  | ok a q =>
    rw [hr] at hfirst
    have hsecond := hf a q fun path hpath hplain hknows => by
      rcases hfirst path hplain hknows with hknows | hin
      · exact hfree path (.inr hpath) hplain hknows
      · exact hdisjoint path hin hpath
    dsimp only
    cases hs : f a q with
    | error e r =>
      rw [hs] at hsecond
      exact hsecond
    | ok b r =>
      rw [hs] at hsecond
      intro path hplain hknows
      rcases hsecond path hplain hknows with hknows | hin
      · exact (hfirst path hplain hknows).imp_right .inl
      · exact .inr (.inr hin)

theorem Quiet.before {x : Compile α} {f : α → Compile β} (hx : Quiet x) (hf : ∀ a, Within R (f a)) :
    Within R (x >>= f) :=
  (Within.bind hx hf fun _ => False.elim).mono fun _ h => h.elim False.elim id

theorem Within.before {x : Compile α} {f : α → Compile β} (hx : Within R x) (hf : ∀ a, Quiet (f a)) :
    Within R (x >>= f) :=
  (Within.bind hx hf fun _ _ => id).mono fun _ h => h.elim id False.elim

theorem Within.beside {x : Compile α} {f : α → Compile β} {path : FlowPath} {S T : String → Prop}
    (hx : Within (path.Beneath S) x) (hf : ∀ a, Within (path.Beneath T) (f a)) (h : ∀ id, S id → ¬T id) :
    Within (path.Beneath fun id => S id ∨ T id) (x >>= f) :=
  (hx.bind hf fun _ => FlowPath.beneath_disjoint h).mono fun _ hin =>
    hin.elim (·.mono fun _ => .inl) (·.mono fun _ => .inr)

theorem Within.beneath {x : Compile α} {path : FlowPath} {id : String}
    (hx : Within (FlowPath.Under (path ++ [.name id])) x) : Within (path.Beneath (· = id)) x :=
  hx.mono fun _ hunder => ⟨id, rfl, hunder⟩

theorem Within.descend {x : Compile α} {path : FlowPath} {id : String} {S T : String → Prop}
    (hx : Within (FlowPath.Beneath (path ++ [.name id]) S) x) (hid : T id) : Within (path.Beneath T) x :=
  hx.mono fun _ hin => ⟨id, hid, hin.under⟩

theorem Within.pure (a : α) : Within R (pure a : Compile α) := fun _ _ _ _ => .inl

theorem Within.throw {e : Error} (h : e.SparesKeys) : Within R (throw e : Compile α) := fun _ _ => h

theorem Within.ofExcept {x : Except Error α} (h : Ordinary x) : Within R (ofExcept x) := by
  cases x with
  | ok a => exact .pure a
  | error e => exact .throw (Error.sparesKeys_of_ordinary h)

theorem Within.modify {f : Program → Program} (hname : ∀ p, (f p).dialog.name = p.dialog.name)
    (hflows : ∀ p, (f p).flows = p.flows) : Within R (modify f : Compile PUnit) := by
  intro p _ path _ hknows
  obtain ⟨key, hkey, hl⟩ := hknows
  exact .inl ⟨key, (Program.pathKey_congr (hname p) path).symm.trans hkey, hflows p ▸ hl⟩

theorem quiet_append (path : FlowPath) (id : String) : Quiet (append path id) :=
  .ofExcept (FlowKey.misnames_append path id).ordinary

theorem quiet_key (path : FlowPath) : Quiet (Compile.key path) :=
  fun p hfree => Within.ofExcept (FlowKey.unkeyed_ofPath p.dialog.name _).ordinary p hfree

theorem Within.append {path : FlowPath} (hpath : path.Plain) {id : String} (hid : FlowPath.isAbsolute id = false)
    {f : FlowPath → Compile α} (hf : FlowPath.Plain (path ++ [.name id]) → Within R (f (path ++ [.name id]))) :
    Within R (append path id >>= f) := by
  cases happend : FlowPath.append path id with
  | error e =>
    have herror := (FlowKey.misnames_append path id).ordinary.error happend
    have hbind : Compile.append path id >>= f = MonadExcept.throw e := by
      unfold Compile.append
      rw [happend]
      rfl
    rw [hbind]
    exact .throw (Error.sparesKeys_of_ordinary herror)
  | ok own =>
    obtain ⟨rfl, hsegment⟩ := FlowPath.append_relative hid happend
    have hbind : Compile.append path id >>= f = f (path ++ [.name id]) := by
      unfold Compile.append
      rw [happend]
      rfl
    rw [hbind]
    exact hf (hpath.extend hsegment)

theorem within_register {path : FlowPath} (hpath : path.Plain) (h : FlowHandler) :
    Within (· = path) (register path h) := by
  intro p hfree
  cases hkey : p.pathKey path with
  | error e =>
    have herror := (FlowKey.unkeyed_ofPath p.dialog.name path).ordinary.error hkey
    have hregister : register path h p = .error e p := by
      have hfails : Compile.key path p = .error e p := by
        change Compile.ofExcept (p.pathKey path) p = _
        rw [hkey]
        rfl
      change EStateM.bind (Compile.key path) _ p = _
      simp only [EStateM.bind, hfails]
    rw [hregister]
    exact Error.sparesKeys_of_ordinary herror
  | ok key =>
    have hnone : p.flows.lookup key = none :=
      Decidable.not_not.mp fun hne => hfree path rfl hpath ⟨key, hkey, hne⟩
    have hadd : p.add key h = .ok _ := Program.add_eq_ok.mpr ⟨hnone, rfl⟩
    rw [register_eq_ok.mpr ⟨key, hkey, hadd⟩]
    intro other hother hknows
    obtain ⟨key', hkey', hl⟩ := hknows
    by_cases heq : key' = key
    · subst heq
      exact .inr (FlowKey.plain_inj hother hpath hkey' hkey)
    · refine .inl ⟨key', hkey', ?_⟩
      have hne : (key' == key) = false := by simpa using heq
      simpa [List.lookup_append, List.lookup_cons, hne] using hl

end Compile

end Colloquy
