-- SUMMARY: The order of members and fields is inert, for verdicts and absence, and for writing, exporting and reading back.
import DataShape.Proofs.Definition.WellBuilt
import DataShape.Proofs.JsonSchema.Faults
import DataShape.Proofs.Shape.Absence

/-!
# Order

Every walk takes the members of a union and the fields of a record in order,
and many stop at the first that decides. On shapes proper this makes no
difference: whatever is asked of members or fields is asked of all of them, or
of some. So shapes that differ in order only, at any number of nodes, agree in
everything that decides an outcome.
-/

namespace DataShape

/-! ## Lists with partners -/

/-- Whether two lists are equally long and each thing in either has a partner in the other. -/
structure Partnered {α β : Type} (r : α → β → Prop) (as : List α) (bs : List β) : Prop where
  length_eq : as.length = bs.length
  right : ∀ a ∈ as, ∃ b ∈ bs, r a b
  left : ∀ b ∈ bs, ∃ a ∈ as, r a b

namespace Partnered

variable {α β : Type} {r : α → β → Prop} {as as' : List α} {bs : List β}

theorem of_forall₂ (h : List.Forall₂ r as bs) : Partnered r as bs := by
  obtain ⟨hlen, hall⟩ := List.forall₂_iff_get.1 h
  constructor
  · exact hlen
  · intro a ha
    obtain ⟨i, hi, rfl⟩ := List.getElem_of_mem ha
    have hi' := hlen ▸ hi
    exact ⟨_, List.getElem_mem hi', hall i hi hi'⟩
  · intro b hb
    obtain ⟨i, hi, rfl⟩ := List.getElem_of_mem hb
    have hi' := hlen ▸ hi
    exact ⟨_, List.getElem_mem hi', hall i hi' hi⟩

theorem of_perm (hperm : as.Perm as') (h : Partnered r as' bs) : Partnered r as bs := by
  constructor
  · exact hperm.length_eq.trans h.length_eq
  · intro a ha
    exact h.right a (hperm.mem_iff.1 ha)
  · intro b hb
    obtain ⟨a, ha, hab⟩ := h.left b hb
    exact ⟨a, hperm.mem_iff.2 ha, hab⟩

variable {p : α → Prop} {q : β → Prop}

theorem forall_iff (h : Partnered r as bs) (hpq : ∀ a b, r a b → (p a ↔ q b)) :
    (∀ a ∈ as, p a) ↔ ∀ b ∈ bs, q b := by
  constructor
  · intro hall b hb
    obtain ⟨a, ha, hab⟩ := h.left b hb
    exact (hpq a b hab).1 (hall a ha)
  · intro hall a ha
    obtain ⟨b, hb, hab⟩ := h.right a ha
    exact (hpq a b hab).2 (hall b hb)

theorem exists_iff (h : Partnered r as bs) (hpq : ∀ a b, r a b → (p a ↔ q b)) :
    (∃ a ∈ as, p a) ↔ ∃ b ∈ bs, q b := by
  constructor
  · rintro ⟨a, ha, hp⟩
    obtain ⟨b, hb, hab⟩ := h.right a ha
    exact ⟨b, hb, (hpq a b hab).1 hp⟩
  · rintro ⟨b, hb, hq⟩
    obtain ⟨a, ha, hab⟩ := h.left b hb
    exact ⟨a, ha, (hpq a b hab).2 hq⟩

end Partnered

/-! ## When a shape can be written and exported -/

namespace Definition

variable {host : Host}

theorem exists_ofShape_iff {s node : Shape} (hnode : s.top = .ok node) :
    (∃ d, ofShape host s = .ok d) ↔
      node.isWritable = true ∧ node.AllNodes (Shape.ShowsKeys host) := by
  simp only [ofShape_of_top hnode, raising_eq_ok_iff]
  exact exists_describe_iff

/-- The limits at which the document of a shape is taken are those that its height allows. -/
theorem exists_toShape_iff {s node : Shape} {document : Value} (hnode : s.top = .ok node)
    (hdocument : ofShape host s = .ok document) (limit : Int) :
    (∃ t, toShape host limit document = .ok t) ↔ node.isStrict = true ∧ node.height ≤ limit := by
  simp only [toShape_ofShape_eq_ok_iff hnode hdocument]
  constructor
  · rintro ⟨_, hstrict, hheight, -⟩
    exact ⟨hstrict, hheight⟩
  · rintro ⟨hstrict, hheight⟩
    exact ⟨_, hstrict, hheight, rfl⟩

end Definition

namespace JsonSchema

variable {host : Host}

open Shape (AllNodes)

theorem exists_ofShape_iff {s node : Shape} (hnode : s.top = .ok node) :
    (∃ d, ofShape host s = .ok d) ↔
      (node.isWritable = true ∧ node.AllNodes (Shape.ShowsKeys host)) ∧
        node.AllNodes RequiresTexts := by
  have hrender : (∃ ks, render host node .root = .ok ks) ↔
      node.isWritable = true ∧ node.AllNodes (Shape.ShowsKeys host) := exists_render_iff
  simp only [ofShape_eq_ok_iff]
  rw [← hrender]
  constructor
  · rintro ⟨d, hd, hrequired⟩
    obtain ⟨ks, hks, -⟩ := Except.map_eq_ok.1 ((rendered_of_top hnode).symm.trans hd)
    exact ⟨⟨ks, hks⟩, (badRequired?_rendered_eq_none_iff hnode hd).1 hrequired⟩
  · rintro ⟨⟨ks, hks⟩, hrequired⟩
    have hd := (rendered_of_top hnode).trans (Except.map_eq_ok.2 ⟨ks, hks, rfl⟩)
    exact ⟨_, hd, (badRequired?_rendered_eq_none_iff hnode hd).2 hrequired⟩

end JsonSchema

namespace Shape

variable {host : Host}

open JsonSchema (RequiresTexts requiresTexts_object_iff)

/-! ## Agreement -/

/-- Whether two shapes agree in all that decides the outcomes of the operations on them. -/
structure Agree (s t : Shape) : Prop where
  satisfies : ∀ v, s.Satisfies v ↔ t.Satisfies v
  acceptsAbsent : s.acceptsAbsent = t.acceptsAbsent
  allLiterals : ∀ p, s.allLiterals p = t.allLiterals p
  isStrict : s.isStrict = t.isStrict
  height : s.height = t.height
  requiresTexts : s.AllNodes RequiresTexts ↔ t.AllNodes RequiresTexts
  showsKeys : ∀ host, s.AllNodes (ShowsKeys host) ↔ t.AllNodes (ShowsKeys host)

theorem Agree.refl (s : Shape) : Agree s s :=
  ⟨fun _ => Iff.rfl, rfl, fun _ => rfl, rfl, rfl, Iff.rfl, fun _ => Iff.rfl⟩

section
variable {ss ts : List Shape} (h : Partnered Agree ss ts)
include h

theorem allLiteralsList_eq_of_partnered (p : Value → Bool) :
    allLiteralsList p ss = allLiteralsList p ts := by
  rw [Bool.eq_iff_iff, allLiteralsList_iff, allLiteralsList_iff]
  exact h.forall_iff fun s t hst => by rw [hst.allLiterals]

theorem isStrictList_eq_of_partnered : isStrictList ss = isStrictList ts := by
  rw [Bool.eq_iff_iff, isStrictList_iff, isStrictList_iff]
  exact h.forall_iff fun s t hst => by rw [hst.isStrict]

theorem heightList_eq_of_partnered : heightList ss = heightList ts := by
  refine eq_of_forall_ge_iff fun n => ?_
  rw [heightList_le_iff, heightList_le_iff]
  exact h.forall_iff fun s t hst => by rw [hst.height]

end

/-- Whether two fields stand under one key and ask for shapes that agree. -/
def AgreeUnderKey (f g : Value × Shape) : Prop := f.1 = g.1 ∧ Agree f.2 g.2

namespace Agree

variable {s t : Shape} {ss ts : List Shape} {fs gs : List (Value × Shape)}

theorem optional (h : Agree s t) : Agree (optional s) (optional t) where
  satisfies v := or_congr_right (h.satisfies v)
  acceptsAbsent := rfl
  allLiterals := h.allLiterals
  isStrict := h.isStrict
  height := congrArg (· + 1) h.height
  requiresTexts := by
    rw [allNodes_optional_iff, allNodes_optional_iff, h.requiresTexts]
    rfl
  showsKeys host := by
    rw [allNodes_optional_iff, allNodes_optional_iff, h.showsKeys]
    rfl

theorem array (h : Agree s t) : Agree (array s) (array t) where
  satisfies v := by simp only [Satisfies, h.satisfies]
  acceptsAbsent := rfl
  allLiterals := h.allLiterals
  isStrict := h.isStrict
  height := congrArg (· + 1) h.height
  requiresTexts := by
    rw [allNodes_array_iff, allNodes_array_iff, h.requiresTexts]
    rfl
  showsKeys host := by
    rw [allNodes_array_iff, allNodes_array_iff, h.showsKeys]
    rfl

theorem satisfiesEach_iff (h : List.Forall₂ Agree ss ts) (vs : List Value) :
    SatisfiesEach ss vs ↔ SatisfiesEach ts vs := by
  induction h generalizing vs with
  | nil => rfl
  | cons hst _ ih =>
    cases vs with
    | nil => rfl
    | cons v vs => rw [SatisfiesEach, SatisfiesEach, hst.satisfies, ih]

/-- Elements of a tuple are told apart by their positions. -/
theorem tuple (h : List.Forall₂ Agree ss ts) : Agree (tuple ss) (tuple ts) where
  satisfies v := by simp only [Satisfies, satisfiesEach_iff h]
  acceptsAbsent := rfl
  allLiterals := allLiteralsList_eq_of_partnered (.of_forall₂ h)
  isStrict := by
    rw [Shape.isStrict, Shape.isStrict, h.length_eq, isStrictList_eq_of_partnered (.of_forall₂ h)]
  height := by rw [Shape.height, Shape.height, heightList_eq_of_partnered (.of_forall₂ h)]
  requiresTexts := by
    rw [allNodes_tuple_iff, allNodes_tuple_iff]
    exact and_congr Iff.rfl ((Partnered.of_forall₂ h).forall_iff fun _ _ hst => hst.requiresTexts)
  showsKeys host := by
    rw [allNodes_tuple_iff, allNodes_tuple_iff]
    exact and_congr Iff.rfl ((Partnered.of_forall₂ h).forall_iff fun _ _ hst => hst.showsKeys host)

theorem union (h : Partnered Agree ss ts) : Agree (union ss) (union ts) where
  satisfies v := by
    simp only [Satisfies, satisfiesSome_iff_exists_mem]
    exact h.exists_iff fun s t hst => hst.satisfies v
  acceptsAbsent := by
    rw [Bool.eq_iff_iff, Shape.acceptsAbsent, Shape.acceptsAbsent, anyAcceptsAbsent_iff,
      anyAcceptsAbsent_iff]
    exact h.exists_iff fun s t hst => by rw [hst.acceptsAbsent]
  allLiterals := allLiteralsList_eq_of_partnered h
  isStrict := by
    rw [Shape.isStrict, Shape.isStrict, h.length_eq, isStrictList_eq_of_partnered h]
  height := by rw [Shape.height, Shape.height, heightList_eq_of_partnered h]
  requiresTexts := by
    rw [allNodes_union_iff, allNodes_union_iff]
    exact and_congr Iff.rfl (h.forall_iff fun _ _ hst => hst.requiresTexts)
  showsKeys host := by
    rw [allNodes_union_iff, allNodes_union_iff]
    exact and_congr Iff.rfl (h.forall_iff fun _ _ hst => hst.showsKeys host)

theorem object (h : Partnered AgreeUnderKey fs gs) : Agree (object fs) (object gs) where
  satisfies v := by
    simp only [Satisfies, satisfiesFields_iff_forall_mem]
    refine exists₂_congr fun form entries => and_congr_right fun _ => h.forall_iff ?_
    rintro f g ⟨hkey, hfg⟩
    rw [hkey, hfg.satisfies]
  acceptsAbsent := rfl
  allLiterals p := by
    rw [Shape.allLiterals, Shape.allLiterals, Bool.eq_iff_iff, allLiteralsFields_iff,
      allLiteralsFields_iff]
    exact h.forall_iff fun f g hfg => by rw [hfg.2.allLiterals]
  isStrict := by
    rw [Shape.isStrict, Shape.isStrict, Bool.eq_iff_iff, isStrictFields_iff, isStrictFields_iff]
    exact h.forall_iff fun f g hfg => by rw [hfg.1, hfg.2.isStrict]
  height := by
    rw [Shape.height, Shape.height, Nat.add_right_cancel_iff]
    refine eq_of_forall_ge_iff fun n => ?_
    rw [heightFields_le_iff, heightFields_le_iff]
    exact h.forall_iff fun f g hfg => by rw [hfg.2.height]
  requiresTexts := by
    rw [allNodes_object_iff, allNodes_object_iff, requiresTexts_object_iff,
      requiresTexts_object_iff]
    refine and_congr (h.forall_iff fun f g hfg => ?_)
      (h.forall_iff fun f g hfg => hfg.2.requiresTexts)
    rw [hfg.1, hfg.2.acceptsAbsent]
  showsKeys host := by
    rw [allNodes_object_iff, allNodes_object_iff]
    refine and_congr (h.forall_iff fun f g hfg => ?_)
      (h.forall_iff fun f g hfg => hfg.2.showsKeys host)
    rw [hfg.1]

end Agree

/-! ## Shapes that differ in order only -/

/-- Whether a shape is another with the members of unions, and the fields of records, in an order of
their own at any of its nodes. -/
inductive Reordered : Shape → Shape → Prop
  | keep (s : Shape) : Reordered s s
  | optional {s t : Shape} (h : Reordered s t) : Reordered (.optional s) (.optional t)
  | array {s t : Shape} (h : Reordered s t) : Reordered (.array s) (.array t)
  | tuple {ss ts : List Shape} (hlen : ss.length = ts.length)
      (h : ∀ (i : Nat) (hi : i < ss.length) (hi' : i < ts.length), Reordered ss[i] ts[i]) :
      Reordered (.tuple ss) (.tuple ts)
  | union {ss us ts : List Shape} (hperm : ss.Perm us) (hlen : us.length = ts.length)
      (h : ∀ (i : Nat) (hi : i < us.length) (hi' : i < ts.length), Reordered us[i] ts[i]) :
      Reordered (.union ss) (.union ts)
  | object {fs hs gs : List (Value × Shape)} (hperm : fs.Perm hs) (hlen : hs.length = gs.length)
      (hkey : ∀ (i : Nat) (hi : i < hs.length) (hi' : i < gs.length), hs[i].1 = gs[i].1)
      (h : ∀ (i : Nat) (hi : i < hs.length) (hi' : i < gs.length), Reordered hs[i].2 gs[i].2) :
      Reordered (.object fs) (.object gs)

theorem Reordered.agree {s t : Shape} (h : Reordered s t) : Agree s t := by
  induction h with
  | keep s => exact .refl s
  | optional _ ih => exact .optional ih
  | array _ ih => exact .array ih
  | tuple hlen _ ih => exact .tuple (List.forall₂_iff_get.2 ⟨hlen, ih⟩)
  | union hperm hlen _ ih =>
    have hparts := Partnered.of_forall₂ (List.forall₂_iff_get.2 ⟨hlen, ih⟩)
    exact .union (hparts.of_perm hperm)
  | object hperm hlen hkey _ ih =>
    have hunderKey : List.Forall₂ AgreeUnderKey _ _ :=
      List.forall₂_iff_get.2 ⟨hlen, fun i hi hi' => ⟨hkey i hi hi', ih i hi hi'⟩⟩
    exact .object ((Partnered.of_forall₂ hunderKey).of_perm hperm)

/-- Shapes proper that differ in order only give every value the same verdict and accept absence
alike; one can be written or exported when the other can, and their documents are taken at the same
limits. -/
theorem outcomes_of_reordered {s t rt rt' : Shape} (hs : s.top = .ok rt) (ht : t.top = .ok rt')
    (hproper : rt.isProper = true) (h : Reordered rt rt') :
    (∀ v, ∃ b, s.isValid host v = .ok b ∧ t.isValid host v = .ok b) ∧
      rt.acceptsAbsent = rt'.acceptsAbsent ∧
      ((∃ d, Definition.ofShape host s = .ok d) ↔ ∃ d, Definition.ofShape host t = .ok d) ∧
      ((∃ d, JsonSchema.ofShape host s = .ok d) ↔ ∃ d, JsonSchema.ofShape host t = .ok d) ∧
      ∀ d d', Definition.ofShape host s = .ok d → Definition.ofShape host t = .ok d' →
        ∀ limit, (∃ u, Definition.toShape host limit d = .ok u) ↔
          ∃ u, Definition.toShape host limit d' = .ok u := by
  have hagree := h.agree
  have hproper' : rt'.isProper = true := (hagree.allLiterals _).symm.trans hproper
  have hwritable : rt.isWritable = rt'.isWritable := hagree.allLiterals _
  refine ⟨fun v => ?_, hagree.acceptsAbsent, ?_, ?_, fun d d' hd hd' limit => ?_⟩
  · have hverdict : Decides (s.isValid host v) _ := isValid_decides_of_top hs hproper v
    have hverdict' : Decides (t.isValid host v) _ := isValid_decides_of_top ht hproper' v
    have hsame := hverdict.eq_of_iff hverdict' (hagree.satisfies v)
    obtain ⟨b, hb, -⟩ := hverdict
    exact ⟨b, hb, hsame ▸ hb⟩
  · rw [Definition.exists_ofShape_iff hs, Definition.exists_ofShape_iff ht, hwritable,
      hagree.showsKeys]
  · rw [JsonSchema.exists_ofShape_iff hs, JsonSchema.exists_ofShape_iff ht, hwritable,
      hagree.showsKeys, hagree.requiresTexts]
  · rw [Definition.exists_toShape_iff hs hd, Definition.exists_toShape_iff ht hd',
      hagree.isStrict, hagree.height]

/-- Two fields change places, and so do the members of the union under one of them and those of a
union inside it. A record without the optional entry is accepted before and after, and both
documents are taken from limit five on. -/
theorem outcomes_of_reordered_three_nodes :
    let inner (a b : Shape) : Shape := .array (.union [a, b])
    let outer (a b : Shape) : Shape := .union [a, b]
    let rt : Shape := .object [(.ofString "n", outer (.optional .null) (inner .number .string)),
      (.ofString "m", .boolean)]
    let rt' : Shape := .object [(.ofString "m", .boolean),
      (.ofString "n", outer (inner .string .number) (.optional .null))]
    let v : Value := .object .plain [(.ofString "m", .bool true)]
    Reordered rt rt' ∧ rt.isValid .shallow v = .ok true ∧ rt'.isValid .shallow v = .ok true ∧
      ∃ d d', Definition.ofShape .shallow rt = .ok d ∧ Definition.ofShape .shallow rt' = .ok d' ∧
        (∃ u, Definition.toShape .shallow 5 d' = .ok u) ∧
        ¬ ∃ u, Definition.toShape .shallow 4 d' = .ok u := by
  intro inner outer rt rt' v
  have hinner : Reordered (inner .number .string) (inner .string .number) := by
    refine .array (.union (.swap _ _ _) rfl fun i hi hi' => ?_)
    match i with
    | 0 | 1 => exact .keep _
  have houter : Reordered (outer (.optional .null) (inner .number .string))
      (outer (inner .string .number) (.optional .null)) := by
    refine .union (.swap _ _ _) rfl fun i hi hi' => ?_
    match i with
    | 0 => exact hinner
    | 1 => exact .keep _
  have hreordered : Reordered rt rt' := by
    refine .object (.swap _ _ _) rfl (fun i hi hi' => ?_) fun i hi hi' => ?_
    · match i with
      | 0 | 1 => rfl
    · match i with
      | 0 => exact .keep _
      | 1 => exact houter
  obtain ⟨hverdicts, -, -, -, hlimits⟩ :=
    outcomes_of_reordered (s := rt) (t := rt') rfl rfl rfl hreordered
  have hverdict : rt.isValid .shallow v = .ok true := rfl
  obtain ⟨b, hb, hb'⟩ := hverdicts v
  obtain rfl := Except.ok.inj (hb.symm.trans hverdict)
  obtain ⟨d, hd⟩ : ∃ d, Definition.ofShape .shallow rt = .ok d := ⟨_, rfl⟩
  obtain ⟨d', hd'⟩ : ∃ d', Definition.ofShape .shallow rt' = .ok d' := ⟨_, rfl⟩
  have htaken := Definition.exists_toShape_iff (s := rt) rfl hd
  refine ⟨hreordered, hverdict, hb', d, d', hd, hd', ?_, ?_⟩
  · exact (hlimits d d' hd hd' 5).1 ((htaken 5).2 (by decide))
  · rw [← hlimits d d' hd hd' 4, htaken 4]
    decide

end Shape

end DataShape
