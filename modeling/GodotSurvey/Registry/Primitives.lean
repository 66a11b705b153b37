import GodotSurvey.Text.Space

/-!
# Methods of values

The value types with a fixed set of methods: primitives such as strings and vectors, and the
array-like types, which share one set.
-/

namespace GodotSurvey.Registry

/-- Each primitive type with its methods. -/
def primitiveTypes : List (Text × List Text) := primitiveLines.map fun (n, ms) => (n, Text.words ms)
where primitiveLines : List (String × String) := [
  ("String",
    "begins_with ends_with contains containsn find findn rfind count format get_extension
    get_basename get_file get_base_dir get_slice get_slice_count insert is_empty
    is_valid_float is_valid_int is_valid_identifier join left right length lstrip rstrip
    strip_edges lower upper capitalize to_lower to_upper to_snake_case to_camel_case
    to_pascal_case pad_zeros pad_decimals repeat replace replacen reverse split rsplit
    split_floats substr to_int to_float to_utf8_buffer to_ascii_buffer md5_text sha256_text
    similarity simplify_path path_join trim_prefix trim_suffix unicode_at c_escape c_unescape
    json_escape xml_escape uri_encode uri_decode match matchn is_absolute_path
    is_relative_path hash num chr humanize_size validate_node_name"),
  ("StringName",
    "begins_with ends_with contains find format is_empty length split to_lower to_upper replace
    substr hash left right"),
  ("NodePath",
    "get_name get_name_count get_subname get_subname_count get_concatenated_names
    get_concatenated_subnames get_as_property_path is_absolute is_empty hash slice"),
  ("Vector2",
    "abs angle angle_to angle_to_point aspect bounce ceil clamp cross direction_to
    distance_squared_to distance_to dot floor is_equal_approx is_finite is_normalized
    is_zero_approx length length_squared lerp limit_length max_axis_index min_axis_index
    move_toward normalized orthogonal posmod posmodv project reflect rotated round sign slerp
    slide snapped from_angle inverse octahedron_encode outer signed_angle_to cubic_interpolate
    bezier_interpolate min max"),
  ("Vector2i",
    "abs aspect clamp clampi length length_squared max_axis_index min_axis_index sign snapped
    snappedi distance_to distance_squared_to min mini max maxi"),
  ("Vector3",
    "abs angle angle_to angle_to_point aspect bounce ceil clamp cross direction_to
    distance_squared_to distance_to dot floor is_equal_approx is_finite is_normalized
    is_zero_approx length length_squared lerp limit_length max_axis_index min_axis_index
    move_toward normalized orthogonal posmod posmodv project reflect rotated round sign slerp
    slide snapped from_angle inverse octahedron_encode outer signed_angle_to cubic_interpolate
    bezier_interpolate min max octahedron_decode"),
  ("Vector3i",
    "abs clamp clampi length length_squared max_axis_index min_axis_index sign snapped snappedi
    distance_to distance_squared_to min mini max maxi"),
  ("Vector4",
    "abs ceil clamp dot floor inverse is_equal_approx is_normalized length length_squared lerp
    normalized round sign snapped distance_to direction_to min max"),
  ("Vector4i",
    "abs clamp length length_squared sign snapped distance_to min max"),
  ("Rect2",
    "abs encloses expand get_area get_center get_support grow grow_individual grow_side
    has_area has_point intersection intersects is_equal_approx is_finite merge end"),
  ("Rect2i",
    "abs encloses expand get_area get_center grow has_area has_point intersection intersects
    merge"),
  ("Color",
    "blend clamp darkened lightened from_hsv from_ok_hsl from_rgbe9995 from_string
    get_luminance hex html html_is_valid inverted is_equal_approx lerp linear_to_srgb
    srgb_to_linear to_abgr32 to_argb32 to_html to_rgba32 to_rgba64"),
  ("Dictionary",
    "clear duplicate erase find_key get get_or_add has has_all hash is_empty is_read_only keys
    make_read_only merge merged size values recursive_equal"),
  ("Transform2D",
    "affine_inverse basis_xform basis_xform_inv get_origin get_rotation get_scale get_skew
    interpolate_with inverse is_equal_approx looking_at orthonormalized rotated rotated_local
    scaled scaled_local translated translated_local"),
  ("Transform3D",
    "affine_inverse interpolate_with inverse is_equal_approx looking_at orthonormalized rotated
    rotated_local scaled scaled_local translated translated_local"),
  ("Basis",
    "determinant from_euler from_scale get_euler get_rotation_quaternion get_scale inverse
    is_equal_approx looking_at orthonormalized rotated scaled slerp tdotx tdoty tdotz
    transposed"),
  ("Quaternion",
    "angle_to dot exp get_angle get_axis get_euler inverse is_equal_approx is_normalized length
    length_squared log normalized slerp slerpni spherical_cubic_interpolate"),
  ("Callable",
    "bind bindv call call_deferred callv get_argument_count get_bound_arguments get_method
    get_object get_object_id hash is_custom is_null is_standard is_valid rpc rpc_id unbind"),
  ("Signal",
    "connect disconnect emit get_connections get_name get_object get_object_id has_connections
    is_connected is_null")]

/-- The array-like types. -/
def arrayTypes : List Text := Text.words
  "Array PackedByteArray PackedInt32Array PackedInt64Array PackedFloat32Array
  PackedFloat64Array PackedStringArray PackedVector2Array PackedVector3Array
  PackedVector4Array PackedColorArray"

/-- The methods of every array-like type. -/
def arrayMethods : List Text := Text.words
  "append append_array assign back bsearch bsearch_custom clear count duplicate erase fill
  filter find front has hash insert is_empty is_read_only is_typed make_read_only map max min
  pick_random pop_at pop_back pop_front push_back push_front reduce remove_at resize reverse
  rfind shuffle size slice sort sort_custom all any to_byte_array get_typed_builtin
  get_typed_class_name"

/-- The methods that only byte arrays have. -/
def byteArrayMethods : List Text := Text.words
  "get_string_from_utf8 get_string_from_ascii get_string_from_utf16 get_string_from_utf32
  compress decompress decompress_dynamic hex_encode decode_u8 decode_s32 decode_float
  encode_u8 encode_s32 encode_float to_float32_array to_int32_array"

/-- The name is a primitive type. -/
def isPrimitive (name : Text) : Bool := (primitiveTypes.lookup name).isSome

/-- The primitive type has the method. -/
def primitiveHasMethod (type method : Text) : Bool :=
  (primitiveTypes.lookup type).any (·.contains method)

/-- The name is an array-like type. -/
def isArrayType (name : Text) : Bool := arrayTypes.contains name

/-- The array-like type has the method. -/
def arrayTypeHasMethod (type method : Text) : Bool :=
  isArrayType type
    && (arrayMethods.contains method
      || (type == "PackedByteArray" && byteArrayMethods.contains method))

end GodotSurvey.Registry
