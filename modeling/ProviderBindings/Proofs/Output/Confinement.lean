import ProviderBindings.Proofs.Output.Writing
import ProviderBindings.Proofs.Provider.FilePaths

/-!
Operations below the output directory that are confined to one place: they change nothing elsewhere, and what
stands elsewhere decides nothing about them. Writing a file of a provider is confined to the directory of
that provider.
-/

namespace ProviderBindings

open FileTree (Outcome Change Grows Leads)
open Route (IsName)

def FileTree.AgreeBelow (q : Place) (t t' : FileTree) : Prop := ∀ a, q <+: a → t.get? a = t'.get? a

structure Confined {α : Type} (r : Route) (p q : Place) (op : FileTree → FileTree × α) : Prop where
  grows : ∀ {t}, t.Leads r p → Grows t (op t).1
  regular : ∀ {t}, t.Leads r p → t.Regular → (op t).1.Regular
  outside : ∀ {t}, t.Leads r p → ∀ {a}, ¬ q <+: a → (op t).1.get? a = t.get? a
  inside : ∀ {t t'}, t.Leads r p → t'.Leads r p → t.AgreeBelow q t' →
    (op t).2 = (op t').2 ∧ (op t).1.AgreeBelow q (op t').1

theorem FileTree.AgreeBelow.insert {q b : Place} {t t' : FileTree} (h : t.AgreeBelow q t') (hb : b ≠ [])
    (e : Entry) : (t.insert b e).AgreeBelow q (t'.insert b e) := by
  intro a ha
  by_cases heq : a = b
  · rw [heq, FileTree.get?_insert_self hb, FileTree.get?_insert_self hb]
  · rw [FileTree.get?_insert_of_ne heq, FileTree.get?_insert_of_ne heq]
    exact h a ha

theorem ne_nil_of_below {q a : Place} (hq : q ≠ []) (ha : q <+: a) : a ≠ [] := by
  rintro rfl
  exact hq (List.prefix_nil.mp ha)

namespace Confined

variable {α β : Type} {r : Route} {p q : Place} {op op' : FileTree → FileTree × α}

theorem result (a : α) : Confined r p q fun t => (t, a) where
  grows _ := Grows.refl _
  regular _ h := h
  outside _ _ _ := rfl
  inside _ _ h := ⟨rfl, h⟩

theorem congr (h : Confined r p q op') (heq : ∀ t, t.Leads r p → op t = op' t) : Confined r p q op where
  grows hl := heq _ hl ▸ h.grows hl
  regular hl := heq _ hl ▸ h.regular hl
  outside hl := heq _ hl ▸ h.outside hl
  inside hl hl' := heq _ hl ▸ heq _ hl' ▸ h.inside hl hl'

theorem bind {next : α → FileTree → FileTree × β} (h : Confined r p q op)
    (hn : ∀ a, Confined r p q (next a)) : Confined r p q fun t => next (op t).2 (op t).1 where
  grows hl := (h.grows hl).trans ((hn _).grows (hl.mono (h.grows hl)))
  regular hl hr := (hn _).regular (hl.mono (h.grows hl)) (h.regular hl hr)
  outside hl _ hq := ((hn _).outside (hl.mono (h.grows hl)) hq).trans (h.outside hl hq)
  inside hl hl' hagree := by
    obtain ⟨hresult, hbelow⟩ := h.inside hl hl' hagree
    rw [hresult]
    exact (hn _).inside (hl.mono (h.grows hl)) (hl'.mono (h.grows hl')) hbelow

theorem map (f : α → β) (h : Confined r p q op) : Confined r p q fun t => ((op t).1, f (op t).2) :=
  h.bind fun a => result (f a)

theorem apply {change : FileTree → Change} (hq : q ≠ [])
    (hlocal : ∀ {t t'}, t.Leads r p → t'.Leads r p → t.AgreeBelow q t' → change t = change t')
    (hplace : ∀ {t a e}, t.Leads r p → change t = .ok (some (a, e)) →
      q <+: a ∧ (t.isDirectory a = true → e = .directory)) :
    Confined r p q fun t => t.apply (change t) where
  grows {t} hl := by
    rcases hc : change t with e | _ | ⟨b, e⟩
    · exact Grows.refl t
    · exact Grows.refl t
    · obtain ⟨hb, he⟩ := hplace hl hc
      exact Grows.insert (ne_nil_of_below hq hb) he
  regular {t} hl hr := by
    rcases hc : change t with e | _ | ⟨b, e⟩
    · exact hr
    · exact hr
    · exact hr.insert (ne_nil_of_below hq (hplace hl hc).1)
  outside {t} hl {a} ha := by
    rcases hc : change t with e | _ | ⟨b, e⟩
    · rfl
    · rfl
    · refine FileTree.get?_insert_of_ne ?_
      rintro rfl
      exact ha (hplace hl hc).1
  inside {t t'} hl hl' hagree := by
    rw [hlocal hl hl' hagree]
    rcases hc : change t' with e | _ | ⟨b, e⟩
    · exact ⟨rfl, hagree⟩
    · exact ⟨rfl, hagree⟩
    · exact ⟨rfl, hagree.insert (ne_nil_of_below hq (hplace hl' hc).1) e⟩

end Confined

namespace FileTree

variable {t t' : FileTree} {r : Route} {p : Place} {s f contents : String}

theorem AgreeBelow.isDirectory {q a : Place} (h : t.AgreeBelow q t') (ha : q <+: a) :
    t.isDirectory a = t'.isDirectory a := by
  rw [FileTree.isDirectory, FileTree.isDirectory, h a ha]

theorem confined_opening (fault : Option IoError) (s : String) :
    Confined r p (p ++ [s]) fun t => t.apply (opening fault p s t) := by
  refine Confined.apply (by simp) (fun {t t'} _ _ hagree => ?_) fun {t a e} _ hc => ?_
  · simp only [opening, hagree _ (List.prefix_refl _)]
  · rcases opening_eq_ok hc with heq | ⟨heq, -⟩
    · cases heq
      exact ⟨List.prefix_refl _, fun _ => rfl⟩
    · cases heq

theorem walk_end_name (hl : t.Leads r p) (hs : IsName s) :
    t.walk (t.start r) (r.steps ++ [s]) = if Route.nameLimit < s.utf8ByteSize then .error .invalidFilename
      else if (t.get? (p ++ [s])).isSome then .ok (p ++ [s]) else .error .notFound := by
  rw [walk_append, hl.walk, ← enter_name hl.directory hs]
  exact walk_singleton

theorem end_of_walk_name {q : Place} (hl : t.Leads r p) (hs : IsName s)
    (h : t.walk (t.start r) (r.steps ++ [s]) = .ok q) : q = p ++ [s] := by
  rw [walk_end_name hl hs] at h
  split at h
  · cases h
  · split at h
    · cases h
      rfl
    · cases h

theorem confined_delivery (fault : Option IoError) (hs : IsName s) :
    Confined r p (p ++ [s]) fun t =>
      t.apply (delivery fault (t.walk (t.start r) (r.steps ++ [s])) f contents t) := by
  have hself : p ++ [s] <+: p ++ [s] := List.prefix_refl _
  have hfile : p ++ [s] <+: p ++ [s] ++ [f] := List.prefix_append _ _
  refine Confined.apply (by simp) (fun {t t'} hl hl' hagree => ?_) fun {t a e} hl hc => ?_
  · rw [walk_end_name hl hs, walk_end_name hl' hs, hagree _ hself]
    cases fault with
    | some e => rfl
    | none =>
        split
        · rfl
        · split
          · simp only [delivery, hagree.isDirectory hself, hagree.isDirectory hfile]
          · rfl
  · obtain ⟨q, hwalk, heq, hno⟩ := delivery_eq_ok hc
    cases end_of_walk_name hl hs hwalk
    cases heq
    exact ⟨hfile, fun hd => absurd hd hno⟩

end FileTree

namespace Output

def makeRoom (directory owner : String) (f : SourceFile) (t : FileTree) : Outcome OutputError Unit :=
  let path := filePath directory f.path
  failed owner path (t.makeDirectories ((Route.ofText path).parent?.getD (Route.ofText directory)))

def deliver (directory owner : String) (f : SourceFile) (t : FileTree) : Outcome OutputError Unit :=
  let path := filePath directory f.path
  failed owner path
    (match t.replaceFile (Route.ofText path) f.contents with
      | .ok t' => (t', .ok ())
      | .error e => (t, .error e))

theorem write_eq (directory owner : String) (f : SourceFile) (t : FileTree) :
    write directory owner f t =
      match makeRoom directory owner f t with
      | (t, .error e) => (t, .error e)
      | (t, .ok ()) =>
          ((deliver directory owner f t).1,
            (deliver directory owner f t).2.map fun _ => filePath directory f.path) := by
  simp only [write, makeRoom, deliver, failed_eq]
  rcases t.makeDirectories _ with ⟨t', e | ⟨⟩⟩
  · rfl
  · have hmade (g : IoError → OutputError) : (Except.ok ⟨⟩ : Except IoError Unit).mapError g = .ok ⟨⟩ := rfl
    rw [hmade]
    dsimp only
    cases t'.replaceFile (Route.ofText (filePath directory f.path)) f.contents <;> rfl

variable {directory owner s name contents : String} {p : Place} {t : FileTree}

theorem route_filePath {path : String} {names : List String} (hn : ∀ s ∈ names, IsName s)
    (hne : names ≠ []) (hpath : (Route.parts path.toList).map String.ofList = names) :
    Route.ofText (filePath directory path) = (Route.ofText directory).below names := by
  rw [filePath, hpath, Route.ofText_foldl_extend directory hn hne]

theorem parent?_filePath {path last : String} {names : List String}
    (hn : ∀ s ∈ names ++ [last], IsName s)
    (hpath : (Route.parts path.toList).map String.ofList = names ++ [last]) :
    (Route.ofText (filePath directory path)).parent? =
      some ⟨(Route.ofText directory).isAbsolute, (Route.ofText directory).names ++ names, false⟩ := by
  rw [route_filePath hn (by simp) hpath, Route.parent?_below _ hn]

theorem isName_pair (hs : IsName s) (hf : IsName name) : ∀ a ∈ [s] ++ [name], IsName a := by
  simp [hs, hf]

theorem makeRoom_eq (hl : t.Leads (Route.ofText directory) p) (hs : IsName s) (hf : IsName name) :
    makeRoom directory owner ⟨s ++ "/" ++ name, contents⟩ t =
      failed owner (filePath directory (s ++ "/" ++ name)) (t.apply (FileTree.opening
        (Route.fault? ⟨(Route.ofText directory).isAbsolute, (Route.ofText directory).names ++ [s], false⟩)
        p s t)) := by
  rw [makeRoom, parent?_filePath (isName_pair hs hf) (parts_pair hs hf), Option.getD_some,
    FileTree.makeDirectories_name hl hs]

theorem deliver_eq {path last : String} {names : List String} (hn : ∀ s ∈ names ++ [last], IsName s)
    (hpath : (Route.parts path.toList).map String.ofList = names ++ [last]) :
    deliver directory owner ⟨path, contents⟩ t =
      failed owner (filePath directory path) (t.apply (FileTree.delivery
        ((Route.ofText directory).below (names ++ [last])).fault?
        (t.walk (t.start (Route.ofText directory)) ((Route.ofText directory).steps ++ names)) last
        contents t)) := by
  simp only [deliver, route_filePath hn (by simp) hpath]
  exact congrArg _ (FileTree.replaceFile_below t (Route.ofText directory) (hn last (by simp)))

theorem confined_makeRoom {path : String} (hs : IsName s) (h : LiesIn s path) :
    Confined (Route.ofText directory) p (p ++ [s]) (makeRoom directory owner ⟨path, contents⟩) := by
  obtain ⟨name, hf, rfl⟩ := h
  have hopening := FileTree.confined_opening (r := .ofText directory) (p := p)
    (Route.fault? ⟨(Route.ofText directory).isAbsolute, (Route.ofText directory).names ++ [s], false⟩) s
  refine (hopening.map (Except.mapError (.io owner (filePath directory (s ++ "/" ++ name))))).congr ?_
  exact fun t hl => (makeRoom_eq hl hs hf).trans (failed_eq ..)

theorem confined_deliver {path : String} (hs : IsName s) (h : LiesIn s path) :
    Confined (Route.ofText directory) p (p ++ [s]) (deliver directory owner ⟨path, contents⟩) := by
  obtain ⟨name, hf, rfl⟩ := h
  have hdelivery : Confined (Route.ofText directory) p (p ++ [s]) fun t =>
      t.apply (FileTree.delivery ((Route.ofText directory).below ([s] ++ [name])).fault?
        (t.walk (t.start (Route.ofText directory)) ((Route.ofText directory).steps ++ [s])) name
        contents t) :=
    FileTree.confined_delivery _ hs
  refine (hdelivery.map (Except.mapError (.io owner (filePath directory (s ++ "/" ++ name))))).congr ?_
  exact fun t _ => (deliver_eq (isName_pair hs hf) (parts_pair hs hf)).trans (failed_eq ..)

theorem confined_write {path : String} (hs : IsName s) (h : LiesIn s path) :
    Confined (Route.ofText directory) p (p ++ [s]) (write directory owner ⟨path, contents⟩) := by
  let next : Except OutputError Unit → FileTree → Outcome OutputError String
    | .error e, t => (t, .error e)
    | .ok (), t =>
        ((deliver directory owner ⟨path, contents⟩ t).1,
          (deliver directory owner ⟨path, contents⟩ t).2.map fun _ => filePath directory path)
  have hnext : ∀ made, Confined (Route.ofText directory) p (p ++ [s]) (next made) := by
    rintro (e | ⟨⟩)
    · exact Confined.result _
    · exact (confined_deliver hs h).map _
  have hroom : Confined (Route.ofText directory) p (p ++ [s]) (makeRoom directory owner ⟨path, contents⟩) :=
    confined_makeRoom hs h
  refine (hroom.bind hnext).congr fun t _ => ?_
  rw [write_eq]
  rcases makeRoom directory owner ⟨path, contents⟩ t with ⟨t', e | ⟨⟩⟩ <;> rfl

end Output

end ProviderBindings
