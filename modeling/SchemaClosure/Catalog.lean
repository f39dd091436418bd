namespace SchemaClosure.Catalog

/-- The types whose codecs ship with the runtime library, containers apart. -/
def leafTypes : List String := [
  "short", "int", "long", "ushort", "uint", "ulong", "float", "double", "bool", "byte", "sbyte", "decimal", "char",
  "string", "object", "System.Guid", "System.TimeSpan", "System.DateTime", "System.DateTimeOffset", "MessagePack.Nil",
  "short[]", "int[]", "long[]", "ushort[]", "uint[]", "ulong[]", "float[]", "double[]", "bool[]", "byte[]", "sbyte[]",
  "decimal[]", "char[]", "string[]", "System.DateTime[]", "System.ArraySegment<byte>", "System.ArraySegment<byte>?",
  "UnityEngine.Vector2", "UnityEngine.Vector3", "UnityEngine.Vector4", "UnityEngine.Quaternion", "UnityEngine.Color",
  "UnityEngine.Bounds", "UnityEngine.Rect", "UnityEngine.AnimationCurve", "UnityEngine.RectOffset",
  "UnityEngine.Gradient", "UnityEngine.WrapMode", "UnityEngine.GradientMode", "UnityEngine.Keyframe",
  "UnityEngine.Matrix4x4", "UnityEngine.GradientColorKey", "UnityEngine.GradientAlphaKey", "UnityEngine.Color32",
  "UnityEngine.LayerMask", "UnityEngine.Vector2Int", "UnityEngine.Vector3Int", "UnityEngine.RangeInt",
  "UnityEngine.RectInt", "UnityEngine.BoundsInt", "System.Reactive.Unit"]

def isLeaf (signature : String) : Bool := leafTypes.contains signature

/-- The unbound signature of the container that needs the codecs of groupings and sequences as well. -/
def lookupSignature : String := "System.Linq.ILookup<,>"

def groupingName : String := "System.Linq.IGrouping"

def enumerableName : String := "System.Collections.Generic.IEnumerable"

/-- The codec templates of the known containers, by unbound signature. -/
def containers : List (String × String) := [
  ("System.Collections.Generic.List<>", "MsgPack::Formatters.ListFormatter<TREPLACE>"),
  ("System.Collections.Generic.LinkedList<>", "MsgPack::Formatters.LinkedListFormatter<TREPLACE>"),
  ("System.Collections.Generic.Queue<>", "MsgPack::Formatters.QueueFormatter<TREPLACE>"),
  ("System.Collections.Generic.Stack<>", "MsgPack::Formatters.StackFormatter<TREPLACE>"),
  ("System.Collections.Generic.HashSet<>", "MsgPack::Formatters.HashSetFormatter<TREPLACE>"),
  ("System.Collections.ObjectModel.ReadOnlyCollection<>", "MsgPack::Formatters.ReadOnlyCollectionFormatter<TREPLACE>"),
  ("System.Collections.Generic.IList<>", "MsgPack::Formatters.InterfaceListFormatter2<TREPLACE>"),
  ("System.Collections.Generic.ICollection<>", "MsgPack::Formatters.InterfaceCollectionFormatter2<TREPLACE>"),
  ("System.Collections.Generic.IEnumerable<>", "MsgPack::Formatters.InterfaceEnumerableFormatter<TREPLACE>"),
  ("System.Collections.Generic.Dictionary<,>", "MsgPack::Formatters.DictionaryFormatter<TREPLACE>"),
  ("System.Collections.Generic.IDictionary<,>", "MsgPack::Formatters.InterfaceDictionaryFormatter<TREPLACE>"),
  ("System.Collections.Generic.SortedDictionary<,>", "MsgPack::Formatters.SortedDictionaryFormatter<TREPLACE>"),
  ("System.Collections.Generic.SortedList<,>", "MsgPack::Formatters.SortedListFormatter<TREPLACE>"),
  ("System.Linq.ILookup<,>", "MsgPack::Formatters.InterfaceLookupFormatter<TREPLACE>"),
  ("System.Linq.IGrouping<,>", "MsgPack::Formatters.InterfaceGroupingFormatter<TREPLACE>"),
  ("System.Collections.ObjectModel.ObservableCollection<>", "MsgPack::Formatters.ObservableCollectionFormatter<TREPLACE>"),
  ("System.Collections.ObjectModel.ReadOnlyObservableCollection<>", "MsgPack::Formatters.ReadOnlyObservableCollectionFormatter<TREPLACE>"),
  ("System.Collections.Generic.IReadOnlyList<>", "MsgPack::Formatters.InterfaceReadOnlyListFormatter<TREPLACE>"),
  ("System.Collections.Generic.IReadOnlyCollection<>", "MsgPack::Formatters.InterfaceReadOnlyCollectionFormatter<TREPLACE>"),
  ("System.Collections.Generic.ISet<>", "MsgPack::Formatters.InterfaceSetFormatter<TREPLACE>"),
  ("System.Collections.Concurrent.ConcurrentBag<>", "MsgPack::Formatters.ConcurrentBagFormatter<TREPLACE>"),
  ("System.Collections.Concurrent.ConcurrentQueue<>", "MsgPack::Formatters.ConcurrentQueueFormatter<TREPLACE>"),
  ("System.Collections.Concurrent.ConcurrentStack<>", "MsgPack::Formatters.ConcurrentStackFormatter<TREPLACE>"),
  ("System.Collections.ObjectModel.ReadOnlyDictionary<,>", "MsgPack::Formatters.ReadOnlyDictionaryFormatter<TREPLACE>"),
  ("System.Collections.Generic.IReadOnlyDictionary<,>", "MsgPack::Formatters.InterfaceReadOnlyDictionaryFormatter<TREPLACE>"),
  ("System.Collections.Concurrent.ConcurrentDictionary<,>", "MsgPack::Formatters.ConcurrentDictionaryFormatter<TREPLACE>"),
  ("System.Lazy<>", "MsgPack::Formatters.LazyFormatter<TREPLACE>"),
  ("System.Threading.Tasks.Task<>", "MsgPack::Formatters.TaskValueFormatter<TREPLACE>"),
  ("System.Threading.Tasks.ValueTask<>", "MsgPack::Formatters.ValueTaskFormatter<TREPLACE>"),
  ("System.Tuple<>", "MsgPack::Formatters.TupleFormatter<TREPLACE>"),
  ("System.Tuple<,>", "MsgPack::Formatters.TupleFormatter<TREPLACE>"),
  ("System.Tuple<,,>", "MsgPack::Formatters.TupleFormatter<TREPLACE>"),
  ("System.Tuple<,,,>", "MsgPack::Formatters.TupleFormatter<TREPLACE>"),
  ("System.Tuple<,,,,>", "MsgPack::Formatters.TupleFormatter<TREPLACE>"),
  ("System.Tuple<,,,,,>", "MsgPack::Formatters.TupleFormatter<TREPLACE>"),
  ("System.Tuple<,,,,,,>", "MsgPack::Formatters.TupleFormatter<TREPLACE>"),
  ("System.Tuple<,,,,,,,>", "MsgPack::Formatters.TupleFormatter<TREPLACE>"),
  ("System.ValueTuple<>", "MsgPack::Formatters.ValueTupleFormatter<TREPLACE>"),
  ("System.ValueTuple<,>", "MsgPack::Formatters.ValueTupleFormatter<TREPLACE>"),
  ("System.ValueTuple<,,>", "MsgPack::Formatters.ValueTupleFormatter<TREPLACE>"),
  ("System.ValueTuple<,,,>", "MsgPack::Formatters.ValueTupleFormatter<TREPLACE>"),
  ("System.ValueTuple<,,,,>", "MsgPack::Formatters.ValueTupleFormatter<TREPLACE>"),
  ("System.ValueTuple<,,,,,>", "MsgPack::Formatters.ValueTupleFormatter<TREPLACE>"),
  ("System.ValueTuple<,,,,,,>", "MsgPack::Formatters.ValueTupleFormatter<TREPLACE>"),
  ("System.ValueTuple<,,,,,,,>", "MsgPack::Formatters.ValueTupleFormatter<TREPLACE>"),
  ("System.Collections.Generic.KeyValuePair<,>", "MsgPack::Formatters.KeyValuePairFormatter<TREPLACE>"),
  ("System.ArraySegment<>", "MsgPack::Formatters.ArraySegmentFormatter<TREPLACE>"),
  ("System.Collections.Immutable.ImmutableArray<>", "MsgPack::ImmutableCollection.ImmutableArrayFormatter<TREPLACE>"),
  ("System.Collections.Immutable.ImmutableList<>", "MsgPack::ImmutableCollection.ImmutableListFormatter<TREPLACE>"),
  ("System.Collections.Immutable.ImmutableDictionary<,>", "MsgPack::ImmutableCollection.ImmutableDictionaryFormatter<TREPLACE>"),
  ("System.Collections.Immutable.ImmutableHashSet<>", "MsgPack::ImmutableCollection.ImmutableHashSetFormatter<TREPLACE>"),
  ("System.Collections.Immutable.ImmutableSortedDictionary<,>", "MsgPack::ImmutableCollection.ImmutableSortedDictionaryFormatter<TREPLACE>"),
  ("System.Collections.Immutable.ImmutableSortedSet<>", "MsgPack::ImmutableCollection.ImmutableSortedSetFormatter<TREPLACE>"),
  ("System.Collections.Immutable.ImmutableQueue<>", "MsgPack::ImmutableCollection.ImmutableQueueFormatter<TREPLACE>"),
  ("System.Collections.Immutable.ImmutableStack<>", "MsgPack::ImmutableCollection.ImmutableStackFormatter<TREPLACE>"),
  ("System.Collections.Immutable.IImmutableList<>", "MsgPack::ImmutableCollection.InterfaceImmutableListFormatter<TREPLACE>"),
  ("System.Collections.Immutable.IImmutableDictionary<,>", "MsgPack::ImmutableCollection.InterfaceImmutableDictionaryFormatter<TREPLACE>"),
  ("System.Collections.Immutable.IImmutableQueue<>", "MsgPack::ImmutableCollection.InterfaceImmutableQueueFormatter<TREPLACE>"),
  ("System.Collections.Immutable.IImmutableSet<>", "MsgPack::ImmutableCollection.InterfaceImmutableSetFormatter<TREPLACE>"),
  ("System.Collections.Immutable.IImmutableStack<>", "MsgPack::ImmutableCollection.InterfaceImmutableStackFormatter<TREPLACE>"),
  ("Reactive.Bindings.ReactiveProperty<>", "MsgPack::ReactivePropertyExtension.ReactivePropertyFormatter<TREPLACE>"),
  ("Reactive.Bindings.IReactiveProperty<>", "MsgPack::ReactivePropertyExtension.InterfaceReactivePropertyFormatter<TREPLACE>"),
  ("Reactive.Bindings.IReadOnlyReactiveProperty<>", "MsgPack::ReactivePropertyExtension.InterfaceReadOnlyReactivePropertyFormatter<TREPLACE>"),
  ("Reactive.Bindings.ReactiveCollection<>", "MsgPack::ReactivePropertyExtension.ReactiveCollectionFormatter<TREPLACE>")]

def containerTemplate? (signature : String) : Option String := containers.lookup signature

def arrayTemplate? : Nat → Option String
  | 1 => some "MsgPack::Formatters.ArrayFormatter<TREPLACE>"
  | 2 => some "MsgPack::Formatters.TwoDimensionalArrayFormatter<TREPLACE>"
  | 3 => some "MsgPack::Formatters.ThreeDimensionalArrayFormatter<TREPLACE>"
  | 4 => some "MsgPack::Formatters.FourDimensionalArrayFormatter<TREPLACE>"
  | _ => none

def nullableTemplate : String := "MsgPack::Formatters.NullableFormatter<TREPLACE>"

def fill (arguments : List Char) : List Char → List Char
  | 'T' :: 'R' :: 'E' :: 'P' :: 'L' :: 'A' :: 'C' :: 'E' :: rest => arguments ++ fill arguments rest
  | c :: rest => c :: fill arguments rest
  | [] => []

def instantiate (template arguments : String) : String := String.ofList (fill arguments.toList template.toList)

end SchemaClosure.Catalog
