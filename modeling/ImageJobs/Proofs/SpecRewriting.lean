import Mathlib.Logic.Relation
import ImageJobs.Proofs.CacheDocument
import ImageJobs.Proofs.RecordRewriting

namespace ImageJobs.ImageCache

namespace Group

/-- A map without entries counts as one that is left out. -/
inductive Spare : Field → Json → Prop where
  | nodeSelector : Spare .nodeSelector (.object [])

/-- The group is written anew. -/
def Rewrites : Json → Json → Prop :=
  RewritesRecord (fun (_ : Field) _ _ => False) Spare

theorem keepMeaning : KeepMeaning (fun (_ : Field) _ _ => False) Spare ofSlots where
  alike := False.elim
  nothing := by
    rintro _ _ ⟨⟩
    refine ⟨TextMap.empty, rfl, fun slots left => ?_⟩
    simp only [ofSlots, Slots.require, Slots.put_self, left,
      Slots.put_of_ne slots _ (by decide : Field.images ≠ .nodeSelector), Option.getD_some,
      Option.getD_none]
  mayEnd := by
    rintro _ _ ⟨⟩
    rfl

theorem Rewrites.alike {value other : Json} (changed : Rewrites value other) :
    Concur (read value) (read other) :=
  RewritesRecord.alike keepMeaning rfl rfl (by decide) changed

end Group

namespace PullSecret

/-- The reference to a secret is written anew. Its name may not be left out. -/
def Rewrites : Json → Json → Prop :=
  RewritesRecord (fun (_ : Field) _ _ => False) fun _ _ => False

theorem keepMeaning :
    KeepMeaning (fun (_ : Field) _ _ => False) (fun _ _ => False) ofSlots where
  alike := False.elim
  nothing := False.elim
  mayEnd := False.elim

theorem Rewrites.alike {value other : Json} (changed : Rewrites value other) :
    Concur (read value) (read other) :=
  RewritesRecord.alike keepMeaning rfl rfl (by decide) changed

end PullSecret

namespace Spec

/-- A list without secrets counts as one that is left out. -/
inductive Spare : Field → Json → Prop where
  | imagePullSecrets : Spare .imagePullSecrets (.array [])

/-- One of the groups is written anew, or one of the references to secrets. -/
inductive Within : Field → Json → Json → Prop where
  | group {value other : Json} (changed : RewritesItem Group.Rewrites value other) :
      Within .cacheSpec value other
  | secret {value other : Json} (changed : RewritesItem PullSecret.Rewrites value other) :
      Within .imagePullSecrets value other

/-- The document is written anew, itself or a record in it. -/
def Rewrites : Json → Json → Prop :=
  RewritesRecord Within Spare

theorem keepMeaning : KeepMeaning Within Spare ofSlots where
  alike := by
    rintro _ _ _ (changed | changed)
    · exact Reading.list_alike changed fun _ _ => Group.Rewrites.alike
    · exact Reading.list_alike changed fun _ _ => PullSecret.Rewrites.alike
  nothing := by
    rintro _ _ ⟨⟩
    refine ⟨[], rfl, fun slots left => ?_⟩
    simp only [ofSlots, Slots.require, Slots.put_self, left,
      Slots.put_of_ne slots _ (by decide : Field.cacheSpec ≠ .imagePullSecrets), Option.getD_some,
      Option.getD_none]
  mayEnd := by
    rintro _ _ ⟨⟩
    rfl

theorem Rewrites.alike {value other : Json} (changed : Rewrites value other) :
    Concur (read value) (read other) :=
  RewritesRecord.alike keepMeaning rfl rfl (by decide) changed

/-- A sequence of changes, each made or taken back. -/
theorem alike_of_eqvGen {document other : Json}
    (rewritten : Relation.EqvGen Rewrites document other) :
    Concur (read document) (read other) := by
  induction rewritten with
  | rel _ _ changed => exact changed.alike
  | refl _ => exact .of_eq rfl
  | symm _ _ _ ih => exact ih.symm
  | trans _ _ _ _ _ first second => exact first.trans second

/-- A document that any sequence of changes gives from a readable one is read as the same
specification, and so it comes to the same written document and the same secrets for a pod. -/
theorem asked_alike_however_written {document other : Json} {spec : Spec}
    (rewritten : Relation.EqvGen Rewrites document other)
    (reads : read document = .ok spec) :
    ∃ again, Reading.Answers read other (.ok again) ∧ again = spec ∧
      again.toJson.render = spec.toJson.render ∧ again.podSecrets = spec.podSecrets :=
  ⟨spec, Reading.answers_ok ((alike_of_eqvGen rewritten spec).mp reads), rfl, rfl, rfl⟩

/-- A group without labels of nodes, and a member of no meaning. -/
def noteDocument : Json :=
  .object [("imagePullSecrets", .array [.object [("name", .string "regcred")]]),
    ("note", .brokenObject []),
    ("cacheSpec", .array [.object [("images", .array [.string "redis:7"])]])]

/-- The same as lists of fields. -/
def listDocument : Json :=
  .array [.array [.array [.array [.string "redis:7"], .object []]],
    .array [.array [.string "regcred"]]]

/-- From the inside out: the reference to the secret is listed, the group gets its labels and is
listed, the member of no meaning is taken away, and the others are put in order and listed. -/
theorem noteDocument_rewritten : Relation.EqvGen Rewrites noteDocument listDocument := by
  let secret : Json := .object [("name", .string "regcred")]
  let group : Json := .object [("images", .array [.string "redis:7"])]
  let labelled : Json :=
    .object [("images", .array [.string "redis:7"]), ("nodeSelector", .object [])]
  let listedSecret : Json := .array [.string "regcred"]
  let listedGroup : Json := .array [.array [.string "redis:7"], .object []]
  let document (secret group : Json) : Json :=
    .object [("imagePullSecrets", .array [secret]), ("note", .brokenObject []),
      ("cacheSpec", .array [group])]
  have secretListed : PullSecret.Rewrites secret listedSecret :=
    @RewritesRecord.listed PullSecret.Field _ _ _ [.string "regcred"] rfl
  have groupLabelled : Group.Rewrites group labelled :=
    @RewritesRecord.spared Group.Field _ _ Group.Spare [("images", .array [.string "redis:7"])] []
      .nodeSelector _ (by decide) .nodeSelector
  have groupListed : Group.Rewrites labelled listedGroup :=
    @RewritesRecord.listed Group.Field _ _ _ [.array [.string "redis:7"], .object []] rfl
  have inGroup {value other : Json} (changed : Group.Rewrites value other) :
      Rewrites (document listedSecret value) (document listedSecret other) :=
    @RewritesRecord.member Field _ Within Spare
      [("imagePullSecrets", .array [listedSecret]), ("note", .brokenObject [])] [] .cacheSpec _ _
      (.group (@RewritesItem.intro _ [] [] _ _ changed))
  have first : Rewrites (document secret group) (document listedSecret group) :=
    @RewritesRecord.member Field _ Within Spare [] _ .imagePullSecrets _ _
      (.secret (@RewritesItem.intro _ [] [] _ _ secretListed))
  have noted : Rewrites
      (.object [("imagePullSecrets", .array [listedSecret]), ("cacheSpec", .array [listedGroup])])
      (document listedSecret listedGroup) :=
    @RewritesRecord.ignored Field _ Within Spare [("imagePullSecrets", .array [listedSecret])] _
      "note" (by intro field; cases field <;> decide) _
  have ordered : Rewrites
      (.object [("imagePullSecrets", .array [listedSecret]), ("cacheSpec", .array [listedGroup])])
      (.object [("cacheSpec", .array [listedGroup]),
        ("imagePullSecrets", .array [listedSecret])]) :=
    .reordered (.swap ..)
  have last : Rewrites
      (.object [("cacheSpec", .array [listedGroup]), ("imagePullSecrets", .array [listedSecret])])
      listDocument :=
    @RewritesRecord.listed Field _ Within Spare [.array [listedGroup], .array [listedSecret]] rfl
  exact .trans _ _ _ (.rel _ _ first) (.trans _ _ _ (.rel _ _ (inGroup groupLabelled))
    (.trans _ _ _ (.rel _ _ (inGroup groupListed)) (.trans _ _ _ (.symm _ _ (.rel _ _ noted))
      (.trans _ _ _ (.rel _ _ ordered) (.rel _ _ last)))))

theorem noteDocument_asks_as_listDocument :
    Relation.EqvGen Rewrites noteDocument listDocument ∧
      read noteDocument = .ok ⟨[⟨["redis:7"], .empty⟩], [⟨"regcred"⟩]⟩ ∧
      ∃ again, Reading.Answers read listDocument (.ok again) ∧
        again = ⟨[⟨["redis:7"], .empty⟩], [⟨"regcred"⟩]⟩ := by
  have reads : read noteDocument = .ok ⟨[⟨["redis:7"], .empty⟩], [⟨"regcred"⟩]⟩ := rfl
  obtain ⟨again, answers, same, -⟩ := asked_alike_however_written noteDocument_rewritten reads
  exact ⟨noteDocument_rewritten, reads, again, answers, same⟩

end Spec

end ImageJobs.ImageCache
