-- SUMMARY: A document that can be reported, and an ordinary text, give a shape or a fault with a message.
import DataShape.Proofs.Yaml.Content

/-!
# Faults of definitions

Building finds fault with a document by its keys and by the types of its parts
only, so all its faults can be reported if the document can. What is read from
an ordinary text is such a document.
-/

namespace DataShape.Definition

variable {host : Host}

theorem isReportable_unknownTag {key : Value} (h : key.isShowable host = true)
    (path : Option Pointer) : (SchemaFault.mk (.unknownTag key) path).isReportable host = true := h

theorem isReportable_fieldNameNotText {key : Value} (h : key.isShowable host = true)
    (path : Option Pointer) :
    (SchemaFault.mk (.fieldNameNotText key) path).isReportable host = true := h

mutual

theorem build_reports (limit : Int)
    (document : Value) (path : Pointer) (depth : Nat) :
    document.isReportable host = true → Reports host limit (build limit document path depth) := by
  rw [build.eq_def]
  split
  · exact fun _ => .tooDeep _
  cases document with
  | null => exact fun _ => .ok _
  | str t =>
    dsimp only
    split
    · exact fun _ => .ok _
    · exact fun _ => .error rfl
  | object form entries =>
    rcases entries with _ | ⟨⟨key, payload⟩, _ | ⟨e, es⟩⟩
    · exact fun _ => .error rfl
    · intro h
      obtain ⟨hkey, hpayload⟩ := Value.isReportableEntries_iff.1 h _ List.mem_cons_self
      dsimp only
      split
      case h_1 => exact (Value.toPlain_reports payload _ hpayload).map _
      case h_2 => exact (build_reports limit payload _ _ hpayload).map _
      case h_3 => exact (build_reports limit payload _ _ hpayload).map _
      case h_4 =>
        clear h
        revert hpayload
        cases payload with
        | array form ds =>
          cases ds with
          | nil => exact fun _ => .error rfl
          | cons d ds => exact fun hds => (buildList_reports limit (d :: ds) _ 0 _ hds).map _
        | reference id => exact nofun
        | _ => exact fun _ => .error rfl
      case h_5 =>
        clear h
        revert hpayload
        cases payload with
        | array form ds =>
          rcases ds with _ | ⟨d, _ | ⟨d', ds⟩⟩
          · exact fun _ => .error rfl
          · exact fun _ => .error rfl
          · exact fun hds => (buildList_reports limit (d :: d' :: ds) _ 0 _ hds).map _
        | reference id => exact nofun
        | _ => exact fun _ => .error rfl
      case h_6 =>
        clear h
        revert hpayload
        cases payload with
        | null => exact fun _ => .ok _
        | object form es => exact fun hes => (buildFields_reports limit es _ _ hes).map _
        | reference id => exact nofun
        | _ => exact fun _ => .error rfl
      case h_7 => exact .error (isReportable_unknownTag hkey _)
    · exact fun _ => .error rfl
  | reference id => exact nofun
  | _ => exact fun _ => .error rfl
termination_by sizeOf document

theorem buildList_reports (limit : Int)
    (documents : List Value) (path : Pointer) (i depth : Nat) :
    Value.isReportableList host documents = true →
      Reports host limit (buildList limit documents path i depth) := by
  cases documents with
  | nil => exact fun _ => .ok _
  | cons d ds =>
    intro h
    obtain ⟨hd, hds⟩ := Bool.and_eq_true_iff.1 h
    refine .bind (build_reports limit d _ depth hd) fun s => ?_
    exact .bind (buildList_reports limit ds path (i + 1) depth hds) fun ss => .ok _
termination_by sizeOf documents

theorem buildFields_reports (limit : Int)
    (fields : List (Value × Value)) (path : Pointer) (depth : Nat) :
    Value.isReportableEntries host fields = true →
      Reports host limit (buildFields limit fields path depth) := by
  rcases fields with _ | ⟨⟨key, d⟩, es⟩
  · exact fun _ => .ok _
  intro h
  obtain ⟨hentry, hes⟩ := Bool.and_eq_true_iff.1 h
  obtain ⟨hkey, hd⟩ := Bool.and_eq_true_iff.1 hentry
  have hbuild := fun path => build_reports limit d path depth hd
  have hrest := buildFields_reports limit es path depth hes
  cases key with
  | str t => exact .bind (hbuild _) fun s => .bind hrest fun ss => .ok _
  | _ => exact .error (isReportable_fieldNameNotText hkey _)
termination_by sizeOf fields

end

/-- Reading a text with a value that can be reported is building from that value. -/
theorem read_of_isReportable {t : Text} {document : Value} (hread : Yaml.read host t = .ok document)
    (h : document.isReportable host = true) (limit : Int) :
    read host limit t = (toShape host limit document).mapError .raised := by
  have hreports := (build_reports limit document .root 1 h).map Shape.sealed
  unfold read toShape
  rw [hread]
  dsimp only
  cases hbuild : (build limit document .root 1).map Shape.sealed with
  | ok s => rfl
  | error f =>
    have hcut : meetsCut (f.raised host) = false := by
      rcases hreports f hbuild with hreport | hdeep
      · rw [SchemaFault.raised_of_isReportable hreport]
        exact SchemaFault.meetsCut_of_isReportable hreport
      · obtain ⟨problem, path⟩ := f
        obtain rfl : problem = .tooDeep limit := hdeep
        unfold SchemaFault.raised
        split <;> rfl
    rw [raising_error]
    exact congrArg Except.error (if_neg (by rw [hcut]; exact Bool.false_ne_true))

/-- What building from a value that can be reported raises is a fault of the schema, if the limit on
depth can be told. -/
theorem toShape_cases {document : Value} (h : document.isReportable host = true) {limit : Int}
    (hlimit : Numeral.isWritable limit = true) :
    (∃ s, toShape host limit document = .ok s) ∨
      ∃ f, toShape host limit document = .error (.schema f) := by
  have hreports := (build_reports limit document .root 1 h).map Shape.sealed
  unfold toShape
  cases hbuild : (build limit document .root 1).map Shape.sealed with
  | ok s => exact .inl ⟨s, rfl⟩
  | error f =>
    have hraised : f.raised host = .schema f := by
      refine (hreports f hbuild).elim SchemaFault.raised_of_isReportable fun hdeep => ?_
      have hshow : f.problem.showFault? host = none := by
        rw [hdeep, SchemaProblem.showFault?, Value.showFault?, if_pos hlimit]
      exact raised_eq_schema_iff.2 ⟨rfl, hshow⟩
    exact .inr ⟨f, by rw [raising_error, hraised]⟩

/-- An ordinary text defines a shape, or has a fault of a definition. -/
theorem read_cases {t : Text} (h : Yaml.IsOrdinary host t) {limit : Int}
    (hlimit : Numeral.isWritable limit = true) :
    (∃ s, read host limit t = .ok s) ∨ ∃ f, read host limit t = .error (.raised (.schema f)) := by
  obtain hmalformed | ⟨document, hread, hreport⟩ := Yaml.read_cases h
  · unfold read
    rw [hmalformed]
    exact .inr ⟨_, rfl⟩
  rw [read_of_isReportable hread hreport limit]
  obtain ⟨s, hs⟩ | ⟨f, hf⟩ := toShape_cases hreport hlimit
  · rw [hs]
    exact .inl ⟨s, rfl⟩
  · rw [hf]
    exact .inr ⟨f, rfl⟩

end DataShape.Definition
