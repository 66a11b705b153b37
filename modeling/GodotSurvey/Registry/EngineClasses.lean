import GodotSurvey.Text.Space

/-!
# Engine classes

The classes of the engine, each with its base class and the methods it declares itself. Inherited
methods are found through the base.
-/

namespace GodotSurvey.Registry

/-- A class of the engine; one without a base class has an empty base. -/
structure EngineClass where
  name : Text
  base : Text
  methods : List Text
  deriving DecidableEq, Repr

/-- An engine class from its methods in one line. -/
def engineClass (name base methods : String) : EngineClass := ⟨name, base, Text.words methods⟩

/-- All engine classes. -/
def engineClasses : List EngineClass := [
  engineClass "Object" ""
    "free get set call callv call_deferred set_deferred connect disconnect is_connected
    emit_signal has_signal has_method get_class is_class get_meta set_meta has_meta
    remove_meta get_script set_script notification get_instance_id is_queued_for_deletion
    get_property_list get_method_list get_signal_list add_user_signal set_block_signals tr
    tr_n new",
  engineClass "RefCounted" "Object"
    "reference unreference init_ref get_reference_count",
  engineClass "Resource" "RefCounted"
    "duplicate get_path set_path get_rid take_over_path setup_local_to_scene emit_changed
    get_local_scene resource_name",
  engineClass "Node" "Object"
    "add_child add_sibling remove_child get_child get_children get_child_count has_node
    get_node get_node_or_null find_child find_children get_parent get_path get_tree
    get_viewport get_window is_inside_tree is_ancestor_of queue_free reparent move_child
    get_index set_process set_physics_process set_process_input set_process_unhandled_input
    set_process_mode is_processing is_physics_processing add_to_group remove_from_group
    is_in_group get_groups duplicate replace_by set_owner get_owner print_tree
    print_tree_pretty propagate_call propagate_notification create_tween get_node_and_resource
    is_node_ready request_ready set_name get_name can_process rpc rpc_id
    set_multiplayer_authority get_multiplayer_authority is_multiplayer_authority
    get_last_exclusive_window update_configuration_warnings set_unique_name_in_owner
    set_process_unhandled_key_input get_scene_file_path",
  engineClass "CanvasItem" "Node"
    "queue_redraw update show hide is_visible is_visible_in_tree set_visible
    get_global_mouse_position get_local_mouse_position get_global_transform get_transform
    get_canvas get_canvas_item get_viewport_rect get_world_2d draw_line draw_rect draw_circle
    draw_arc draw_polygon draw_polyline draw_texture draw_texture_rect draw_string
    draw_set_transform draw_multiline make_canvas_position_local set_modulate get_modulate
    set_self_modulate set_material get_material set_z_index get_z_index make_input_local
    move_to_front",
  engineClass "Node2D" "CanvasItem"
    "rotate translate global_translate look_at get_angle_to to_local to_global move_local_x
    move_local_y apply_scale set_position get_position set_global_position get_global_position
    set_rotation get_rotation set_scale get_scale get_relative_transform_to_parent",
  engineClass "Node3D" "Node"
    "rotate rotate_x rotate_y rotate_z rotate_object_local translate translate_object_local
    global_translate look_at look_at_from_position to_local to_global show hide
    is_visible_in_tree set_visible get_global_transform set_global_transform get_world_3d
    orthonormalize set_identity scale_object_local global_rotate set_global_position
    get_global_position",
  engineClass "Control" "CanvasItem"
    "grab_focus release_focus has_focus accept_event set_size get_size set_position
    get_position set_global_position get_global_position get_rect get_global_rect
    set_anchors_preset set_anchors_and_offsets_preset set_custom_minimum_size get_minimum_size
    add_theme_color_override add_theme_constant_override add_theme_font_override
    add_theme_font_size_override add_theme_stylebox_override get_theme_color get_theme_font
    get_theme_constant get_theme_stylebox has_theme_color set_tooltip_text set_mouse_filter
    warp_mouse find_next_valid_focus set_focus_mode reset_size",
  engineClass "CollisionObject2D" "Node2D"
    "set_collision_layer_value get_collision_layer_value set_collision_mask_value
    get_collision_mask_value set_pickable is_pickable get_rid shape_owner_get_owner
    create_shape_owner",
  engineClass "PhysicsBody2D" "CollisionObject2D"
    "move_and_collide test_move add_collision_exception_with remove_collision_exception_with
    get_collision_exceptions",
  engineClass "CharacterBody2D" "PhysicsBody2D"
    "move_and_slide is_on_floor is_on_wall is_on_ceiling is_on_floor_only is_on_wall_only
    get_floor_normal get_wall_normal get_last_motion get_real_velocity get_slide_collision
    get_slide_collision_count get_last_slide_collision get_floor_angle get_platform_velocity
    apply_floor_snap",
  engineClass "RigidBody2D" "PhysicsBody2D"
    "apply_impulse apply_central_impulse apply_force apply_central_force apply_torque
    apply_torque_impulse add_constant_force add_constant_central_force set_axis_velocity
    get_colliding_bodies get_contact_count",
  engineClass "StaticBody2D" "PhysicsBody2D" "",
  engineClass "Area2D" "CollisionObject2D"
    "get_overlapping_bodies get_overlapping_areas has_overlapping_bodies has_overlapping_areas
    overlaps_body overlaps_area set_monitoring set_monitorable",
  engineClass "CollisionObject3D" "Node3D"
    "set_collision_layer_value get_collision_layer_value set_collision_mask_value
    get_collision_mask_value get_rid",
  engineClass "PhysicsBody3D" "CollisionObject3D"
    "move_and_collide test_move add_collision_exception_with remove_collision_exception_with",
  engineClass "CharacterBody3D" "PhysicsBody3D"
    "move_and_slide is_on_floor is_on_wall is_on_ceiling get_floor_normal get_wall_normal
    get_last_motion get_real_velocity get_slide_collision get_slide_collision_count
    get_last_slide_collision apply_floor_snap",
  engineClass "RigidBody3D" "PhysicsBody3D"
    "apply_impulse apply_central_impulse apply_force apply_central_force apply_torque
    apply_torque_impulse get_colliding_bodies set_axis_velocity",
  engineClass "Area3D" "CollisionObject3D"
    "get_overlapping_bodies get_overlapping_areas has_overlapping_bodies has_overlapping_areas
    overlaps_body overlaps_area",
  engineClass "CollisionShape2D" "Node2D"
    "set_disabled is_disabled set_shape get_shape",
  engineClass "RayCast2D" "Node2D"
    "is_colliding get_collider get_collision_point get_collision_normal force_raycast_update
    add_exception remove_exception clear_exceptions set_target_position",
  engineClass "RayCast3D" "Node3D"
    "is_colliding get_collider get_collision_point get_collision_normal force_raycast_update
    add_exception remove_exception clear_exceptions",
  engineClass "Sprite2D" "Node2D"
    "set_texture get_texture get_rect is_pixel_opaque set_frame get_frame set_flip_h set_flip_v
    set_region_rect",
  engineClass "AnimatedSprite2D" "Node2D"
    "play play_backwards pause stop is_playing set_animation get_animation set_frame get_frame
    set_frame_and_progress set_sprite_frames get_playing_speed",
  engineClass "AnimationMixer" "Node"
    "add_animation_library get_animation get_animation_list has_animation get_animation_library
    advance clear_caches",
  engineClass "AnimationPlayer" "AnimationMixer"
    "play play_backwards pause stop is_playing queue clear_queue seek get_current_animation
    set_current_animation get_current_animation_position get_current_animation_length
    set_speed_scale get_playing_speed set_blend_time animation_set_next get_queue",
  engineClass "AnimationTree" "AnimationMixer"
    "set_active is_active get_root_motion_position set_animation_player",
  engineClass "Camera2D" "Node2D"
    "make_current is_current reset_smoothing force_update_scroll align
    get_screen_center_position set_zoom get_zoom set_limit get_limit set_offset",
  engineClass "Camera3D" "Node3D"
    "make_current clear_current is_current project_ray_origin project_ray_normal
    project_position unproject_position is_position_behind get_camera_transform",
  engineClass "Timer" "Node"
    "start stop is_stopped set_paused is_paused set_wait_time get_wait_time get_time_left
    set_one_shot is_one_shot set_autostart",
  engineClass "Label" "Control"
    "set_text get_text get_line_count get_visible_line_count get_total_character_count
    set_visible_characters",
  engineClass "RichTextLabel" "Control"
    "add_text append_text clear parse_bbcode set_text get_text push_color push_bold pop newline
    scroll_to_line get_line_count",
  engineClass "BaseButton" "Control"
    "set_pressed is_pressed set_pressed_no_signal set_disabled is_disabled is_hovered
    get_draw_mode set_toggle_mode",
  engineClass "Button" "BaseButton"
    "set_text get_text set_button_icon get_button_icon set_flat",
  engineClass "LineEdit" "Control"
    "clear select select_all deselect insert_text_at_caret delete_char_at_caret set_text
    get_text set_caret_column get_caret_column set_placeholder set_editable edit unedit",
  engineClass "TextEdit" "Control"
    "clear set_text get_text insert_text_at_caret get_line get_line_count set_caret_line
    get_caret_line select_all deselect undo redo copy paste cut",
  engineClass "Container" "Control"
    "queue_sort fit_child_in_rect",
  engineClass "ProgressBar" "Range"
    "set_show_percentage",
  engineClass "Range" "Control"
    "set_value get_value set_value_no_signal set_min get_min set_max get_max set_step
    get_as_ratio set_as_ratio share unshare",
  engineClass "TextureRect" "Control"
    "set_texture get_texture set_stretch_mode set_expand_mode",
  engineClass "ItemList" "Control"
    "add_item add_icon_item clear remove_item get_item_count get_item_text set_item_text select
    deselect deselect_all get_selected_items is_selected sort_items_by_text",
  engineClass "OptionButton" "Button"
    "add_item add_icon_item clear remove_item get_item_count get_item_text select get_selected
    get_selected_id get_item_id set_item_disabled",
  engineClass "CanvasLayer" "Node"
    "show hide set_visible is_visible set_layer get_layer get_canvas set_offset
    get_final_transform",
  engineClass "Viewport" "Node"
    "get_visible_rect get_mouse_position warp_mouse get_camera_2d get_camera_3d
    set_input_as_handled is_input_handled push_input gui_get_focus_owner gui_release_focus
    get_texture get_world_2d get_world_3d set_size get_size set_canvas_transform
    get_final_transform",
  engineClass "Window" "Viewport"
    "popup popup_centered popup_centered_ratio hide show grab_focus has_focus set_title
    get_title set_mode get_mode move_to_foreground request_attention set_size get_size
    set_position get_position",
  engineClass "SceneTree" "MainLoop"
    "change_scene_to_file change_scene_to_packed reload_current_scene unload_current_scene
    get_nodes_in_group get_first_node_in_group has_group call_group call_group_flags
    notify_group set_group quit create_timer create_tween get_frame get_node_count get_root
    set_pause is_paused get_processed_tweens queue_delete set_auto_accept_quit get_multiplayer
    get_current_scene set_current_scene",
  engineClass "MainLoop" "Object" "",
  engineClass "Tween" "RefCounted"
    "tween_property tween_interval tween_callback tween_method tween_subtween set_parallel
    set_loops set_trans set_ease set_speed_scale set_process_mode set_pause_mode parallel
    chain play pause stop kill is_running is_valid bind_node custom_step
    get_total_elapsed_time get_loops_left interpolate_value",
  engineClass "PropertyTweener" "Tweener"
    "from from_current as_relative set_delay set_ease set_trans set_custom_interpolator",
  engineClass "Tweener" "RefCounted" "",
  engineClass "PackedScene" "Resource"
    "instantiate can_instantiate pack get_state",
  engineClass "Texture2D" "Resource"
    "get_width get_height get_size has_alpha draw draw_rect get_image",
  engineClass "Image" "Resource"
    "load save_png save_jpg get_width get_height get_size get_pixel set_pixel resize crop
    flip_x flip_y fill convert get_format create create_empty create_from_data get_data
    decompress compress is_empty",
  engineClass "ImageTexture" "Texture2D"
    "create_from_image set_image update get_format set_size_override",
  engineClass "AudioStreamPlayer" "Node"
    "play stop seek is_playing get_playback_position set_stream get_stream set_volume_db
    get_volume_db set_pitch_scale set_bus get_stream_playback has_stream_playback",
  engineClass "AudioStreamPlayer2D" "Node2D"
    "play stop seek is_playing get_playback_position set_stream get_stream set_volume_db
    set_pitch_scale",
  engineClass "AudioStreamPlayer3D" "Node3D"
    "play stop seek is_playing get_playback_position set_stream get_stream",
  engineClass "AudioServer" "Object"
    "get_bus_index set_bus_volume_db get_bus_volume_db set_bus_mute is_bus_mute get_bus_count
    add_bus remove_bus set_bus_effect_enabled",
  engineClass "Input" "Object"
    "is_action_pressed is_action_just_pressed is_action_just_released get_action_strength
    get_action_raw_strength get_axis get_vector is_key_pressed is_physical_key_pressed
    is_mouse_button_pressed is_joy_button_pressed get_joy_axis get_connected_joypads
    get_mouse_mode set_mouse_mode get_last_mouse_velocity warp_mouse action_press
    action_release parse_input_event start_joy_vibration stop_joy_vibration vibrate_handheld
    set_custom_mouse_cursor flush_buffered_events is_anything_pressed get_mouse_button_mask",
  engineClass "InputMap" "Object"
    "add_action erase_action has_action action_add_event action_erase_event action_erase_events
    action_get_events get_actions load_from_project_settings event_is_action",
  engineClass "InputEvent" "Resource"
    "is_action is_action_pressed is_action_released get_action_strength is_pressed is_echo
    is_released as_text is_match xformed_by accumulate",
  engineClass "InputEventKey" "InputEventWithModifiers"
    "get_keycode get_physical_keycode get_unicode get_keycode_with_modifiers as_text_keycode",
  engineClass "InputEventWithModifiers" "InputEventFromWindow"
    "is_command_or_control_pressed get_modifiers_mask",
  engineClass "InputEventFromWindow" "InputEvent" "",
  engineClass "InputEventMouseButton" "InputEventMouse"
    "get_button_index is_double_click get_factor",
  engineClass "InputEventMouse" "InputEventWithModifiers"
    "get_position get_global_position get_button_mask",
  engineClass "OS" "Object"
    "get_name get_environment set_environment has_environment get_cmdline_args
    get_executable_path execute create_process kill shell_open get_ticks_msec get_ticks_usec
    get_unix_time delay_msec delay_usec get_user_data_dir get_data_dir get_locale
    get_locale_language get_processor_count is_debug_build has_feature get_model_name
    get_static_memory_usage request_permissions alert get_process_id get_system_dir
    move_to_trash get_clipboard",
  engineClass "Engine" "Object"
    "get_frames_per_second get_physics_frames get_process_frames get_main_loop get_singleton
    has_singleton register_singleton unregister_singleton get_version_info is_editor_hint
    get_time_scale set_time_scale get_physics_ticks_per_second set_max_fps get_max_fps
    is_in_physics_frame get_frames_drawn",
  engineClass "ResourceLoader" "Object"
    "load load_threaded_request load_threaded_get load_threaded_get_status exists has_cached
    get_dependencies get_recognized_extensions_for_type set_abort_on_missing_resources
    get_resource_uid",
  engineClass "ResourceSaver" "Object"
    "save get_recognized_extensions add_resource_format_saver",
  engineClass "ClassDB" "Object"
    "instantiate class_exists can_instantiate get_class_list get_inheriters_from_class
    get_parent_class is_parent_class class_has_method class_has_signal class_get_property_list
    class_get_method_list class_get_signal_list class_get_property",
  engineClass "ProjectSettings" "Object"
    "get_setting set_setting has_setting save globalize_path localize_path
    get_setting_with_override clear add_property_info load_resource_pack",
  engineClass "Time" "Object"
    "get_ticks_msec get_ticks_usec get_unix_time_from_system get_datetime_dict_from_system
    get_datetime_string_from_system get_date_dict_from_system get_time_dict_from_system
    get_time_string_from_system get_unix_time_from_datetime_dict
    get_datetime_string_from_unix_time",
  engineClass "DisplayServer" "Object"
    "window_set_mode window_get_mode window_set_size window_get_size screen_get_size
    screen_get_dpi mouse_set_mode mouse_get_mode clipboard_get clipboard_set window_set_title
    window_set_vsync_mode virtual_keyboard_show virtual_keyboard_hide",
  engineClass "JSON" "Resource"
    "parse parse_string stringify get_data get_error_line get_error_message get_parsed_text",
  engineClass "FileAccess" "RefCounted"
    "open file_exists get_as_text get_line get_buffer get_csv_line store_string store_line
    store_buffer store_var get_var get_len get_position seek eof_reached close flush
    get_open_error get_file_as_string get_file_as_bytes get_modified_time get_md5",
  engineClass "DirAccess" "RefCounted"
    "open list_dir_begin list_dir_end get_next current_is_dir get_files get_directories
    get_files_at get_directories_at make_dir make_dir_recursive make_dir_absolute
    make_dir_recursive_absolute dir_exists dir_exists_absolute file_exists remove
    remove_absolute rename rename_absolute copy copy_absolute change_dir get_current_dir",
  engineClass "ConfigFile" "RefCounted"
    "load save set_value get_value has_section has_section_key get_sections get_section_keys
    erase_section erase_section_key clear parse encode_to_text",
  engineClass "RandomNumberGenerator" "RefCounted"
    "randi randf randi_range randf_range randfn randomize rand_weighted set_seed get_seed
    set_state",
  engineClass "HTTPRequest" "Node"
    "request request_raw cancel_request get_http_client_status get_body_size
    get_downloaded_bytes set_timeout set_download_file",
  engineClass "Thread" "RefCounted"
    "start wait_to_finish is_alive is_started get_id",
  engineClass "Mutex" "RefCounted"
    "lock unlock try_lock",
  engineClass "Semaphore" "RefCounted"
    "post wait try_wait",
  engineClass "NavigationAgent2D" "Node"
    "get_next_path_position is_navigation_finished is_target_reachable is_target_reached
    set_target_position get_target_position distance_to_target get_final_position set_velocity
    get_current_navigation_path",
  engineClass "NavigationAgent3D" "Node"
    "get_next_path_position is_navigation_finished is_target_reachable is_target_reached
    set_target_position get_target_position distance_to_target set_velocity",
  engineClass "TileMap" "Node2D"
    "set_cell get_cell_source_id get_cell_atlas_coords erase_cell clear clear_layer
    get_used_cells get_used_rect local_to_map map_to_local get_surrounding_cells
    set_cells_terrain_connect update_internals",
  engineClass "TileMapLayer" "Node2D"
    "set_cell get_cell_source_id get_cell_atlas_coords get_cell_tile_data erase_cell clear
    get_used_cells get_used_rect local_to_map map_to_local get_surrounding_cells
    set_cells_terrain_connect notify_runtime_tile_data_update",
  engineClass "GPUParticles2D" "Node2D"
    "restart set_emitting is_emitting set_amount capture_rect",
  engineClass "CPUParticles2D" "Node2D"
    "restart set_emitting is_emitting set_amount convert_from_particles",
  engineClass "Line2D" "Node2D"
    "add_point remove_point clear_points set_point_position get_point_position get_point_count
    set_points get_points",
  engineClass "Path2D" "Node2D"
    "set_curve get_curve",
  engineClass "PathFollow2D" "Node2D"
    "set_progress get_progress set_progress_ratio get_progress_ratio",
  engineClass "MeshInstance3D" "Node3D"
    "set_mesh get_mesh set_surface_override_material get_surface_override_material
    get_active_material create_trimesh_collision create_convex_collision",
  engineClass "SubViewport" "Viewport"
    "set_update_mode set_clear_mode",
  engineClass "MultiplayerAPI" "RefCounted"
    "poll rpc get_unique_id is_server get_peers set_multiplayer_peer get_multiplayer_peer
    get_remote_sender_id has_multiplayer_peer",
  engineClass "ENetMultiplayerPeer" "MultiplayerPeer"
    "create_server create_client create_mesh add_mesh_peer close",
  engineClass "MultiplayerPeer" "PacketPeer"
    "poll close disconnect_peer get_unique_id get_connection_status set_target_peer",
  engineClass "PacketPeer" "RefCounted"
    "get_packet put_packet get_var put_var get_available_packet_count",
  engineClass "Shader" "Resource"
    "get_code set_code get_mode",
  engineClass "ShaderMaterial" "Material"
    "set_shader_parameter get_shader_parameter set_shader get_shader",
  engineClass "Material" "Resource"
    "inspect_native_shader_code",
  engineClass "Font" "Resource"
    "get_string_size get_height get_ascent get_descent draw_string",
  engineClass "AudioStream" "Resource"
    "get_length instantiate_playback is_monophonic",
  engineClass "Script" "Resource"
    "can_instantiate get_base_script get_instance_base_type has_script_signal
    get_script_property_list get_script_method_list get_script_signal_list reload
    get_global_name new",
  engineClass "EditorPlugin" "Node"
    "add_control_to_container remove_control_from_container add_custom_type remove_custom_type
    add_autoload_singleton remove_autoload_singleton add_tool_menu_item remove_tool_menu_item
    get_editor_interface add_inspector_plugin remove_inspector_plugin add_import_plugin
    remove_import_plugin get_undo_redo"]

/-- The engine class of that name. -/
def engineClass? (name : Text) : Option EngineClass := engineClasses.find? (·.name == name)

end GodotSurvey.Registry
