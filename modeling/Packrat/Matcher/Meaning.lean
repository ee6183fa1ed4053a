import Packrat.Matcher.Basic

/-! # The meaning of a matcher

Whether a matcher holds at a path, said without remembered answers.  A test whose answer does not
depend on how often it is called is asked as if for the first time.
-/
namespace Packrat
namespace Matcher

mutual

/-- Whether the matcher holds at the last node of a path. -/
def holds : Matcher → Path → Bool
  | childCount n, p => p.leaf.children.length == n
  | eachChild m, p => p.leaf.children.all fun node => m.holds (p.child node)
  | parent m, p =>
    match p.parent? with
    | some q => m.holds q
    | none => false
  | attachment expected, p => Attachment.sameOption p.leaf.attachment expected
  | value expected, p => p.leaf.value == expected
  | testAttachment predicate, p => predicate.test 0 p.leaf.attachment
  | testValue predicate, p => predicate.test 0 p.leaf.value
  | children ms, p => holdEach ms p p.leaf.children
  | all ms, p => holdAll ms p
  | any ms, p => holdAny ms p

/-- Whether there are as many nodes as matchers, and each node satisfies the one in its place, as a
child of the leaf. -/
def holdEach : List Matcher → Path → List Node → Bool
  | [], _, [] => true
  | m :: ms, p, node :: nodes => m.holds (p.child node) && holdEach ms p nodes
  | _, _, _ => false

/-- Whether all matchers hold. -/
def holdAll : List Matcher → Path → Bool
  | [], _ => true
  | m :: ms, p => m.holds p && holdAll ms p

/-- Whether some matcher holds. -/
def holdAny : List Matcher → Path → Bool
  | [], _ => false
  | m :: ms, p => m.holds p || holdAny ms p

end

end Matcher
end Packrat
