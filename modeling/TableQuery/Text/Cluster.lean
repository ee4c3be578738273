import TableQuery.Text.ClusterClass

/-! # Clusters

A text falls apart into clusters, the pieces that a reader takes for one character.
-/

namespace TableQuery.Text

/-- Whether a cluster, given from its last character back, ends in a consonant and signs that
    join it to a consonant after them. -/
def awaitsConsonant (cluster : List Char) : Bool :=
  let isMark (c : Char) : Bool :=
    c ≠ '\u200C' && (clusterClass c == .extender || clusterClass c == .joiner)
  (cluster.takeWhile isMark).any isLinker && (cluster.dropWhile isMark).head?.any isConsonant

/-- Whether a character joins a cluster, given from its last character back. -/
def joins (cluster : List Char) (next : Char) : Bool :=
  match cluster with
  | [] => false
  | last :: before =>
      match clusterClass last, clusterClass next with
      | .control, _ | _, .control => last == '\r' && next == '\n'
      | _, .extender | _, .joiner | _, .spacing | .prepended, _ => true
      | .leading, .leading | .leading, .vowel | .leading, .syllable _ => true
      | .vowel, .vowel | .vowel, .trailing => true
      | .syllable false, .vowel | .syllable _, .trailing | .trailing, .trailing => true
      | .joiner, .pictograph =>
          (before.dropWhile (clusterClass · == .extender)).head?.any (clusterClass · == .pictograph)
      | .regional, .regional => (cluster.takeWhile (clusterClass · == .regional)).length % 2 == 1
      | _, _ => isConsonant next && awaitsConsonant cluster

/-- The clusters of a text after a cluster in progress, which is given from its last character
    back. -/
def clustersAfter (cluster : List Char) : List Char → List (List Char)
  | [] => [cluster.reverse]
  | c :: rest =>
      if joins cluster c then clustersAfter (c :: cluster) rest
      else cluster.reverse :: clustersAfter [c] rest

def clusters : List Char → List (List Char)
  | [] => []
  | c :: rest => clustersAfter [c] rest

end TableQuery.Text
